import Vvmux.Media.Sources

/-!
# Control records

`dispatch_control` checks what a record needs to have been negotiated, one
lock for each feature, and then performs it.  Some records take the lock more
than once; what is left to do between two locks is a `Task`.
-/

namespace Vvmux
namespace Media

open Library

variable (protocol : Protocol)

/-! ## Records -/

/-- The fields of a control record's envelope that are read. -/
structure Envelope where
  request : Nat
  transaction : Option Nat
  causation : Option Nat
deriving DecidableEq

/-- A `CREATE_*` record; the flags tell whether the optional fields are
there. -/
structure CreateRequest (α : Type) where
  envelope : Envelope
  config : α
  capturePolicy : Nat
  statesPolicy : Bool
  semanticDescriptor : Option SemanticDescriptor
  statesDescriptor : Bool

structure SceneQuery where
  expectedRevision : Option Nat
  cursor : Option (Nat × Nat)
  maximumNodes : Option Nat
deriving DecidableEq

structure WaitRequest where
  wait : PendingSourceWait
  timeoutUs : Nat
deriving DecidableEq

structure MediaBarrier where
  attachmentGeneration : Nat
  finalRecordSequence : Nat
deriving DecidableEq

structure EosRequest where
  sourceId : Nat
  epoch : Nat
  barrier : Option MediaBarrier
deriving DecidableEq

/-- The body of a control record, as its parser returns it. -/
inductive ControlBody where
  | setObservation (parsed : Except String (Envelope × List Observation))
  | querySource (parsed : Except String (Envelope × Nat))
  | queryScene (parsed : Except String (Envelope × SceneQuery))
  | queryAnchor (parsed : Except String (Envelope × Nat))
  | queryLimits (parsed : Except String Envelope)
  | waitSource (parsed : Except String (Envelope × WaitRequest))
  | cancelWait (parsed : Except String (Envelope × Nat))
  | probeVideo (parsed : Except String (Envelope × VideoConfig))
  | probeAudio (parsed : Except String (Envelope × AudioConfig))
  | createRaster
    (parsed : Except String (CreateRequest RasterConfig × RasterUpdateConfig))
  | createImage (parsed : Except String (CreateRequest ImageConfig × Bool))
  | createVideo (parsed : Except String (CreateRequest VideoConfig))
  | createAudio (parsed : Except String (CreateRequest AudioConfig))
  | setSourcePolicy (parsed : Except String (Envelope × Nat × Nat))
  | updateSourceDescriptor
    (parsed : Except String (Envelope × Nat × SemanticDescriptor))
  | beginTxn (parsed : Except String Envelope)
  | createNode (parsed : Except String (Envelope × NodeConfig))
  | updateNode (parsed : Except String (Envelope × NodeConfig))
  | deleteNode (parsed : Except String (Envelope × Nat))
  | commitTxn (parsed : Except String Envelope)
  | abortTxn (parsed : Except String Envelope)
  | destroySource (parsed : Except String (Envelope × Nat))
  | play (parsed : Except String (Envelope × PlayRequest))
  | pause (parsed : Except String (Envelope × Nat))
  | drain (parsed : Except String (Envelope × Nat))
  | flush (parsed : Except String (Envelope × Nat × Nat))
  | eos (parsed : Except String (Envelope × EosRequest))
  | ping (parsed : Except String Envelope)
  | goodbye (parsed : Except String Envelope)
  | unknown (isOptional : Bool)

structure ControlRecord where
  objectId : Nat
  /-- The request id, and zero if the envelope cannot be decoded. -/
  request : Nat
  body : ControlBody

/-- The producer a control connection is of. -/
structure Session where
  producer : ProducerId
  rootContext : Nat
  /-- Whether the connection still takes records. -/
  writable : Bool

/-! ## Tasks -/

/-- What a control thread does when it next has the lock. -/
inductive Task where
  /-- Check the features that a record needs, then perform it. -/
  | check (features : List (Feature × String)) (record : ControlRecord)
  /-- Tell the producer's observers of a source that is ready. -/
  | announce (key : SourceKey)
  | setPlayback (key : SourceKey) (envelope : Envelope)
  | flush (key : SourceKey) (epoch : Nat) (envelope : Envelope)
  /-- Wait until a source has no delivery pending. -/
  | awaitDeliveries (key : SourceKey) (epoch : Nat) (envelope : Envelope)
  | applyEos (key : SourceKey) (epoch : Nat) (envelope : Envelope)
  /-- Take back a barrier whose thread could not be started. -/
  | withdrawBarrier (key : ObjectKey)

/-- The worker of an `EOS` that waits for its media channel. -/
structure BarrierWorker where
  source : SourceKey
  request : Nat
  epoch : Nat
  causation : Option Nat
  barrier : MediaBarrier
deriving DecidableEq

/-- How a control thread goes on: the record is done, with what
`dispatch_control` returns, or another task follows.  A record can start a
timer for a wait or a worker for a barrier. -/
inductive Progress where
  | done (result : Except String Bool)
  | next (task : Task)
  | timer (request : Nat)
  | worker (barrier : BarrierWorker)

/-- Write a record to the session's producer, which ends `dispatch_control`
if the connection is broken. -/
def respond
    (session : Session)
    (state : State)
    (reply : Reply) : State × Progress :=
  if session.writable then
    (state.write session.producer reply, .done (.ok true))
  else (state, .done (.error "connection is closed"))

/-- `return Err(invalid(..))` -/
def refuse (state : State) (text : String) : State × Progress :=
  (state, .done (.error text))

/-- Respond if a call succeeded, and otherwise return its error. -/
def respondTo
    (session : Session)
    (result : State × Except String Unit)
    (reply : Reply) : State × Progress :=
  match result.2 with
  | .error text => refuse result.1 text
  | .ok _ => respond session result.1 reply

/-- Respond with a record that an encoder may refuse. -/
def respondEncoded
    (session : Session)
    (state : State)
    (reply : Reply) : State × Progress :=
  match protocol.encode reply with
  | .error text => refuse state text
  | .ok _ => respond session state reply

/-! ## Features -/

/-- The negotiated features a `CREATE_*` record needs for its optional
fields. -/
def extensionFeatures
    {α : Type}
    (request : CreateRequest α) : List (Feature × String) :=
  (if request.statesPolicy then
    [(Feature.sourceCapturePolicy, "source capture policy was not negotiated")]
  else []) ++
    if request.statesDescriptor then
      [(Feature.sourceDescriptor, "source descriptors were not negotiated")]
    else []

/-- The checks of `dispatch_control` before a record's main part: an error of
the record itself, or the features it needs with the error for each. -/
def requirements
    (record : ControlRecord) : Except String (List (Feature × String)) :=
  let observability :=
    [(Feature.observabilityCore, "observability was not negotiated")]
  match record.body with
  | .setObservation _ => .ok observability
  | .querySource _ => .ok observability
  | .queryScene _ => .ok observability
  | .queryAnchor _ => .ok observability
  | .queryLimits _ => .ok observability
  | .waitSource _ => .ok observability
  | .cancelWait _ => .ok observability
  | .createRaster parsed =>
      parsed.map fun (request, update) =>
        (if update.mode == .fullFrameAndDelta then
          [(Feature.rasterDelta, "raster delta updates were not negotiated")]
        else []) ++ extensionFeatures request
  | .createImage parsed =>
      parsed.map fun (request, cacheLookup) =>
        (if cacheLookup then
          [(Feature.imageCache, "image cache lookup was not negotiated")]
        else []) ++ extensionFeatures request
  | .createVideo parsed => parsed.map extensionFeatures
  | .createAudio parsed => parsed.map extensionFeatures
  | .setSourcePolicy parsed =>
      match parsed with
      | .error text => .error text
      | .ok (_, source, _) =>
          if record.objectId ≠ source then
            .error "source policy object ID mismatch"
          else
            .ok [(Feature.sourceCapturePolicy,
              "source capture policy was not negotiated")]
  | .updateSourceDescriptor parsed =>
      match parsed with
      | .error text => .error text
      | .ok (_, source, _) =>
          if record.objectId ≠ source then
            .error "source descriptor object ID mismatch"
          else
            .ok [(Feature.sourceDescriptor,
              "source descriptors were not negotiated")]
  | _ => .ok []

/-- `producer_has_feature` -/
def producerHasFeature
    (state : State)
    (producer : ProducerId)
    (feature : Feature) : Bool :=
  (state.producers.find? producer).any fun runtime =>
    runtime.features.contains feature

/-! ## Observation -/

section

variable (session : Session) (state : State) (record : ControlRecord)

/-- `SET_OBSERVATION` -/
def setObservation
    (parsed : Except String (Envelope × List Observation)) : State × Progress :=
  match parsed with
  | .error text => refuse state text
  | .ok (envelope, mask) =>
      if record.objectId ≠ 0 then
        refuse state "SET_OBSERVATION must be session-level"
      else
        match state.producers.find? session.producer with
        | none => refuse state "producer missing"
        | some runtime =>
            if !runtime.features.contains .observabilityCore then
              refuse state "observability was not negotiated"
            else
              respond session
                (state.updateProducer session.producer fun runtime =>
                  { runtime with
                    observationMask := mask
                    firstLostSourceSequence := none
                    firstLostSceneSequence := none })
                (.ok 0 envelope.request)

/-- The answer to a request about a source that does not exist. -/
def sourceNotFound (object request : Nat) : Reply :=
  .error object request .notFound "source does not exist in this pane context"

/-- `source_status` -/
def sourceStatus
    (state : State)
    (key : SourceKey)
    (source : Source) : SourceStatus where
  sourceId := key.object
  sourceRevision := source.revision
  kind := source.descriptor.kind
  lifecycle :=
    if source.playing then .active
    else if source.ended then .ended
    else if source.attachmentState = .never then .created
    else .paused
  epoch := protocol.epoch source.sequence
  attachmentState := source.attachmentState
  attachmentGeneration := source.attachmentGeneration
  lastMediaId := source.lastMediaId
  lastMediaSequence := source.lastInnerRecordSequence
  lastPtsUs := source.lastPtsUs
  visible := state.isProjected key
  capturePolicy := source.capturePolicy
  linkedSourceId := source.descriptor.linkedVideo.getD 0
  milestones := source.milestones
  outstandingByteCredit := source.outstandingByteCredit
  outstandingPacketCredit := source.outstandingPacketCredit
  ingressQueueDepth :=
    min (state.deliveries.filter fun _ pending => pending.source == key).size
      protocol.queueDepthCapacity
  descriptor := source.semanticDescriptor.map fun descriptor =>
    if source.capturePolicy &&& protocol.denySemanticExport ≠ 0 then
      .roleOnly descriptor.role
    else .full descriptor
  playback :=
    if source.descriptor.isTimed then some (playbackSnapshot protocol source)
    else none

/-- `QUERY_SOURCE` -/
def querySource
    (parsed : Except String (Envelope × Nat)) : State × Progress :=
  match parsed with
  | .error text => refuse state text
  | .ok (envelope, object) =>
      if record.objectId ≠ object then
        refuse state "QUERY_SOURCE object ID mismatch"
      else
        let key : SourceKey := ⟨session.producer, object⟩
        match state.sources.find? key with
        | none => respond session state (sourceNotFound object envelope.request)
        | some source =>
            respondEncoded protocol session state
              (.sourceStatus envelope.request
                (sourceStatus protocol state key source))

/-- `QUERY_SCENE` -/
def queryScene
    (parsed : Except String (Envelope × SceneQuery)) : State × Progress :=
  match parsed with
  | .error text => refuse state text
  | .ok (envelope, query) =>
      if record.objectId ≠ 0 then
        refuse state "QUERY_SCENE must be session-level"
      else
        match state.producers.find? session.producer with
        | none => refuse state "producer missing"
        | some runtime =>
            let revision := runtime.sceneRevision
            if query.expectedRevision.any (fun expected =>
                expected != revision) ||
                query.cursor.any fun cursor => cursor.1 != revision then
              respondEncoded protocol session state
                (.error 0 envelope.request .preconditionFailed
                  "virtual scene revision changed")
            else
              let nodes := (state.nodes.filter fun _ node =>
                node.producer == session.producer).entries.map
                  fun entry => entry.2.config
              let offset := query.cursor.elim 0 Prod.snd
              if nodes.length < offset then
                refuse state "scene cursor offset exceeds node count"
              else
                let maximum :=
                  min (query.maximumNodes.getD protocol.maxSceneNodes)
                    protocol.maxSceneNodes
                let stop := min (offset + maximum) nodes.length
                respondEncoded protocol session state
                  (.sceneStatus envelope.request revision
                    ((nodes.drop offset).take (stop - offset))
                    (if stop < nodes.length then some stop else none)
                    nodes.length)

/-- `QUERY_ANCHOR` -/
def queryAnchor
    (parsed : Except String (Envelope × Nat)) : State × Progress :=
  match parsed with
  | .error text => refuse state text
  | .ok (envelope, anchor) =>
      if record.objectId ≠ anchor then
        refuse state "QUERY_ANCHOR object ID mismatch"
      else
        match state.producers.find? session.producer with
        | none => refuse state "producer missing"
        | some runtime =>
            let place := (runtime.anchors.find? anchor).map fun place =>
              (max place.1 0, place.2)
            respondEncoded protocol session state
              (.anchorStatus envelope.request anchor place
                (place.isSome && state.activePanes.contains runtime.pane)
                ((state.metrics.find? runtime.pane).elim 0
                  Display.generation))

end

/-- What `QUERY_LIMITS` reports to a producer. -/
def limitsStatus (state : State) (producer : ProducerId) : LimitsStatus where
  maximumSources := state.config.maxSources
  maximumNodes := state.config.maxNodes
  maximumTransactions := state.config.maxNodes
  maximumAnchors := state.config.maxAnchors
  maximumControlBody := protocol.controlMaxRecordBody
  maximumMediaBody := protocol.hardMaxRecordBody.toNat
  maximumWaits := maxRegisteredWaits
  maximumPendingRequests := maxRegisteredWaits
  rollingByteWindow := protocol.hardMaxRecordBody.toNat
  rollingPacketWindow := rollingPacketCredits
  retainedPixelBudget := state.config.aggregateRetainedBytes / 4
  currentSources :=
    (state.sources.filter fun key _ => key.producer == producer).size
  currentNodes :=
    (state.nodes.filter fun key _ => key.producer == producer).size
  currentRetainedPixels := state.retainedBytes / 4

section

variable (session : Session) (state : State)

section

variable (record : ControlRecord)

/-- `QUERY_LIMITS` -/
def queryLimits
    (parsed : Except String Envelope) : State × Progress :=
  match parsed with
  | .error text => refuse state text
  | .ok envelope =>
      if record.objectId ≠ 0 then
        refuse state "QUERY_LIMITS must be session-level"
      else
        respondEncoded protocol session state
          (.limitsStatus envelope.request
            (limitsStatus protocol state session.producer))

/-- Register a wait, and keep what is there if that is refused. -/
def registerWait
    (request : Nat)
    (wait : PendingSourceWait) : State × Progress :=
  match state.producers.find? session.producer with
  | none => refuse state "producer missing"
  | some runtime =>
      if maxRegisteredWaits ≤ runtime.waits.size then
        refuse state "source wait quota exceeded"
      else
        -- The new wait is stored before the id is found to be taken.
        let registered := state.updateProducer session.producer fun runtime =>
          { runtime with waits := runtime.waits.insert request wait }
        if request ∈ runtime.waits then
          refuse registered "wait request ID is already registered"
        else (registered, .timer request)

/-- `WAIT_SOURCE` -/
def waitSource
    (parsed : Except String (Envelope × WaitRequest)) : State × Progress :=
  match parsed with
  | .error text => refuse state text
  | .ok (envelope, { wait, timeoutUs }) =>
      let key : SourceKey := ⟨session.producer, wait.sourceId⟩
      if record.objectId ≠ wait.sourceId then
        refuse state "WAIT_SOURCE object ID mismatch"
      else if maxWaitTimeoutUs < timeoutUs then
        refuse state "WAIT_SOURCE timeout exceeds limit"
      else
        match state.sources.find? key with
        | none =>
            respond session state
              (sourceNotFound wait.sourceId envelope.request)
        | some source =>
            if wait.condition = .firstVisiblePresentation ∧
                ¬ state.isProjected key then
              respond session state
                (.error wait.sourceId envelope.request .notVisible
                  "pane source is not projected to the outer presenter")
            else
              match evaluateWait source wait with
              | some observed =>
                  respondEncoded protocol session state
                    (waitReply envelope.request key source.revision wait
                      observed)
              | none => registerWait session state envelope.request wait

/-- `CANCEL_WAIT` -/
def cancelWait
    (parsed : Except String (Envelope × Nat)) : State × Progress :=
  match parsed with
  | .error text => refuse state text
  | .ok (envelope, request) =>
      if record.objectId ≠ 0 then
        refuse state "CANCEL_WAIT must be session-level"
      else
        let wait := (state.producers.find? session.producer).bind
          fun runtime => runtime.waits.find? request
        let removed := state.updateProducer session.producer fun runtime =>
          { runtime with waits := runtime.waits.erase request }
        match wait with
        | none => respond session removed (.ok 0 envelope.request)
        | some wait =>
            if session.writable then
              respond session
                (removed.write session.producer (.ok 0 envelope.request))
                (.error wait.sourceId request .cancelled
                  "source wait was cancelled")
            else refuse removed "connection is closed"

/-- `PROBE_VIDEO_CONFIG` -/
def probeVideo
    (parsed : Except String (Envelope × VideoConfig)) : State × Progress :=
  match parsed with
  | .error text => refuse state text
  | .ok (envelope, config) =>
      if record.objectId ≠ 0 ∨ config.sourceId ≠ 0 then
        refuse state "video probes must be session-level"
      else
        respond session state
          (.support envelope.request
            (protocol.portablePacketization config.codec config.packetization)
            config.codec state.capabilityGeneration)

/-- `PROBE_AUDIO_CONFIG` -/
def probeAudio
    (parsed : Except String (Envelope × AudioConfig)) : State × Progress :=
  match parsed with
  | .error text => refuse state text
  | .ok (envelope, config) =>
      if record.objectId ≠ 0 ∨ config.sourceId ≠ 0 then
        refuse state "audio probes must be session-level"
      else
        respond session state
          (.support envelope.request (protocol.audioSupported config)
            config.codec state.capabilityGeneration)

/-! ## Sources -/

/-- `create_source` behind the checks of a `CREATE_*` record: `SOURCE_READY`
is sent, and the event behind it is left to do. -/
def performCreate
    (creation : SourceCreation)
    (token now : Nat) : State × Progress :=
  let result :=
    createSource protocol state session.producer creation token now
  match result.2 with
  | .error text => refuse result.1 text
  | .ok reply =>
      match protocol.encode reply with
      | .error text => refuse result.1 text
      | .ok _ =>
          if session.writable then
            (result.1.write session.producer reply,
              .next (.announce
                ⟨session.producer, creation.descriptor.sourceId⟩))
          else refuse result.1 "connection is closed"

/-- The creation a `CREATE_*` record asks for. -/
def CreateRequest.creation
    {α : Type}
    (request : CreateRequest α)
    (object : Nat)
    (descriptor : SourceDescriptor)
    (update : Option RasterUpdateConfig) : SourceCreation where
  request := request.envelope.request
  object := object
  descriptor := descriptor
  causationId := request.envelope.causation
  capturePolicy := request.capturePolicy
  semanticDescriptor := request.semanticDescriptor
  rasterUpdate := update

/-- `SET_SOURCE_POLICY` -/
def setSourcePolicy
    (parsed : Except String (Envelope × Nat × Nat)) : State × Progress :=
  match parsed with
  | .error text => refuse state text
  | .ok (envelope, object, requested) =>
      let key : SourceKey := ⟨session.producer, object⟩
      match state.sources.find? key with
      | none => respond session state (sourceNotFound object envelope.request)
      | some source =>
          match tightenedCapturePolicy protocol source.capturePolicy
              requested with
          | .error _ =>
              respond session state
                (.error object envelope.request .badState
                  "capture policy cannot be relaxed")
          | .ok none =>
              respond session state (.ok object envelope.request)
          | .ok (some tightened) =>
              let told := advanceSource protocol
                (state.updateSource key fun source =>
                  { source with capturePolicy := tightened })
                key [.capturePolicy]
              match told.2 with
              | .error text => refuse told.1 text
              | .ok _ =>
                  respond session (advanceProjection told.1)
                    (.ok object envelope.request)

/-- `UPDATE_SOURCE_DESCRIPTOR` -/
def updateSourceDescriptor
    (parsed : Except String (Envelope × Nat × SemanticDescriptor)) :
    State × Progress :=
  match parsed with
  | .error text => refuse state text
  | .ok (envelope, object, descriptor) =>
      let key : SourceKey := ⟨session.producer, object⟩
      match state.sources.find? key with
      | none => respond session state (sourceNotFound object envelope.request)
      | some source =>
          let current := source.semanticDescriptor.elim 0
            SemanticDescriptor.contentRevision
          if descriptor.contentRevision ≤ current then
            respond session state
              (.error object envelope.request .badState
                "descriptor content revision must advance")
          else
            let told := advanceSource protocol
              (state.updateSource key fun source =>
                { source with semanticDescriptor := some descriptor })
              key [.descriptor]
            match told.2 with
            | .error text => refuse told.1 text
            | .ok _ =>
                respond session (advanceProjection told.1)
                  (.ok object envelope.request)

/-- `DESTROY_SOURCE` -/
def destroySource
    (parsed : Except String (Envelope × Nat)) : State × Progress :=
  match parsed with
  | .error text => refuse state text
  | .ok (envelope, object) =>
      respondTo session
        (removeSource protocol state ⟨session.producer, object⟩)
        (.ok object envelope.request)

/-- The first part of `EOS`: without a barrier it waits for the deliveries of
its source, and with one it registers a worker. -/
def startEos
    (parsed : Except String (Envelope × EosRequest))
    (spawns : Bool) : State × Progress :=
  match parsed with
  | .error text => refuse state text
  | .ok (envelope, request) =>
      let key : SourceKey := ⟨session.producer, request.sourceId⟩
      let reject := fun (code : ErrorCode) (text : String) =>
        respond session state
          (.error request.sourceId envelope.request code text)
      if record.objectId ≠ request.sourceId then
        refuse state "EOS object ID mismatch"
      else
        match request.barrier with
        | none => (state, .next (.awaitDeliveries key request.epoch envelope))
        | some barrier =>
            if !producerHasFeature state session.producer
                .mediaOrderBarrier then
              reject .unsupportedFeature
                "media-order barrier was not negotiated"
            else
              match state.sources.find? key with
              | none => reject .notFound "source missing"
              | some source =>
                  let registration : ObjectKey :=
                    ⟨session.producer, envelope.request⟩
                  if source.attachmentGeneration ≠
                      barrier.attachmentGeneration then
                    reject .badState "EOS attachment generation is not current"
                  else if maxPendingMediaBarriers ≤
                        state.pendingMediaBarriers.length ∨
                      registration ∈ state.pendingMediaBarriers then
                    reject .limitExceeded "media-order barrier quota exceeded"
                  else
                    let registered := { state with
                      pendingMediaBarriers :=
                        registration :: state.pendingMediaBarriers }
                    if spawns then
                      (registered, .worker
                        { source := key
                          request := envelope.request
                          epoch := request.epoch
                          causation := envelope.causation
                          barrier := barrier })
                    else (registered, .next (.withdrawBarrier registration))

/-! ## Transactions -/

/-- `BEGIN_TXN`: the transaction is stored before its id is found to be
taken. -/
def beginTxn
    (parsed : Except String Envelope) : State × Progress :=
  match parsed with
  | .error text => refuse state text
  | .ok envelope =>
      match envelope.transaction with
      | none => refuse state "transaction ID missing"
      | some transaction =>
          let key : ObjectKey := ⟨session.producer, transaction⟩
          let begun := { state with
            transactions := state.transactions.insert key [] }
          if key ∈ state.transactions then
            refuse begun "transaction already exists"
          else respond session begun (.ok 0 envelope.request)

/-- Add a mutation to an open transaction. -/
def State.bufferMutation
    (state : State)
    (key : ObjectKey)
    (mutation : Mutation) : State :=
  { state with
    transactions := state.transactions.modify key fun mutations =>
      mutations ++ [mutation] }

/-- `CREATE_NODE` and `UPDATE_NODE` -/
def bufferNode
    (mutation : SceneNode → Mutation)
    (parsed : Except String (Envelope × NodeConfig)) : State × Progress :=
  match parsed with
  | .error text => refuse state text
  | .ok (envelope, node) =>
      if node.contextId ≠ session.rootContext ∨
          node.nodeId ≠ record.objectId then
        refuse state "node object or context mismatch"
      else
        match envelope.transaction with
        | none => refuse state "transaction ID missing"
        | some transaction =>
            match state.producers.find? session.producer with
            | none => refuse state "producer missing"
            | some runtime =>
                let key : ObjectKey := ⟨session.producer, transaction⟩
                if node.clip.isSome &&
                    !runtime.features.contains .nodeClipRect then
                  refuse state "node clip feature was not negotiated"
                else if key ∈ state.transactions then
                  respond session
                    (state.bufferMutation key (mutation
                      { producer := session.producer
                        pane := runtime.pane
                        config := node
                        retainedAnchor := none }))
                    (.ok record.objectId envelope.request)
                else refuse state "transaction has not begun"

/-- `DELETE_NODE` -/
def deleteNode
    (parsed : Except String (Envelope × Nat)) : State × Progress :=
  match parsed with
  | .error text => refuse state text
  | .ok (envelope, node) =>
      match envelope.transaction with
      | none => refuse state "transaction ID missing"
      | some transaction =>
          let key : ObjectKey := ⟨session.producer, transaction⟩
          if key ∈ state.transactions then
            respond session
              (state.bufferMutation key (.delete session.producer node))
              (.ok record.objectId envelope.request)
          else refuse state "transaction has not begun"

/-- `COMMIT_TXN` -/
def commitTxn
    (parsed : Except String Envelope) : State × Progress :=
  match parsed with
  | .error text => refuse state text
  | .ok envelope =>
      match envelope.transaction with
      | none => refuse state "transaction ID missing"
      | some transaction =>
          let key : ObjectKey := ⟨session.producer, transaction⟩
          match state.transactions.find? key with
          | none => refuse state "transaction has not begun"
          | some mutations =>
              respondTo session
                (applyTransaction protocol
                  { state with transactions := state.transactions.erase key }
                  session.producer mutations)
                (.presented envelope.request)

/-- `ABORT_TXN` -/
def abortTxn
    (parsed : Except String Envelope) : State × Progress :=
  match parsed with
  | .error text => refuse state text
  | .ok envelope =>
      match envelope.transaction with
      | none => refuse state "transaction ID missing"
      | some transaction =>
          respond session
            { state with
              transactions :=
                state.transactions.erase ⟨session.producer, transaction⟩ }
            (.ok 0 envelope.request)

/-! ## Dispatch -/

/-- What the world decides while a record is performed: the time, the random
ticket, and whether a thread can be started. -/
structure Circumstance where
  now : Nat
  token : Nat
  spawns : Bool

/-- `PAUSE` and `DRAIN` cancel the deliveries of their source first. -/
def startPause
    (parsed : Except String (Envelope × Nat)) : State × Progress :=
  match parsed with
  | .error text => refuse state text
  | .ok (envelope, object) =>
      (cancelSourceDeliveries state ⟨session.producer, object⟩,
        .next (.setPlayback ⟨session.producer, object⟩ envelope))

/-- `PLAY` -/
def performPlay
    (parsed : Except String (Envelope × PlayRequest))
    (now : Nat) : State × Progress :=
  match parsed with
  | .error text => refuse state text
  | .ok (envelope, play) =>
      respondTo session
        (setPlayback protocol state ⟨session.producer, play.sourceId⟩
          (some play) envelope.causation now)
        (.ok play.sourceId envelope.request)

/-- `FLUSH` cancels the deliveries of its source first. -/
def startFlush
    (parsed : Except String (Envelope × Nat × Nat)) : State × Progress :=
  match parsed with
  | .error text => refuse state text
  | .ok (envelope, object, epoch) =>
      (cancelSourceDeliveries state ⟨session.producer, object⟩,
        .next (.flush ⟨session.producer, object⟩ epoch envelope))

/-- `PING` -/
def performPing
    (parsed : Except String Envelope) : State × Progress :=
  match parsed with
  | .error text => refuse state text
  | .ok envelope =>
      if record.objectId ≠ 0 ∨ envelope.request = 0 then
        refuse state "PING is not a correlated session-level request"
      else respond session state (.pong envelope.request)

/-- `GOODBYE` ends the connection. -/
def performGoodbye
    (parsed : Except String Envelope) : State × Progress :=
  match parsed with
  | .error text => refuse state text
  | .ok envelope =>
      if session.writable then
        (state.write session.producer (.ok 0 envelope.request),
          .done (.ok false))
      else refuse state "connection is closed"

/-- The main part of a `CREATE_*` record. -/
def performCreation
    (parsed : Except String SourceCreation)
    (supported : Except String Unit)
    (circumstance : Circumstance) : State × Progress :=
  match parsed, supported with
  | .error text, _ => refuse state text
  | .ok _, .error text => refuse state text
  | .ok creation, .ok _ =>
      performCreate protocol session state creation circumstance.token
        circumstance.now

/-- `dispatch_control` of a record whose features were checked. -/
def perform
    (circumstance : Circumstance) : State × Progress :=
  match record.body with
  | .setObservation parsed => setObservation session state record parsed
  | .querySource parsed => querySource protocol session state record parsed
  | .queryScene parsed => queryScene protocol session state record parsed
  | .queryAnchor parsed => queryAnchor protocol session state record parsed
  | .queryLimits parsed => queryLimits protocol session state record parsed
  | .waitSource parsed => waitSource protocol session state record parsed
  | .cancelWait parsed => cancelWait session state record parsed
  | .probeVideo parsed => probeVideo protocol session state record parsed
  | .probeAudio parsed => probeAudio protocol session state record parsed
  | .createRaster parsed =>
      performCreation protocol session state
        (parsed.map fun (request, update) =>
          request.creation record.objectId (.raster request.config) (some update))
        (.ok ()) circumstance
  | .createImage parsed =>
      performCreation protocol session state
        (parsed.map fun (request, _) =>
          request.creation record.objectId (.image request.config) none)
        (.ok ()) circumstance
  | .createVideo parsed =>
      performCreation protocol session state
        (parsed.map fun request =>
          request.creation record.objectId (.video request.config) none)
        (match parsed with
          | .ok request =>
              if protocol.portablePacketization request.config.codec
                  request.config.packetization then .ok ()
              else .error "unsupported video configuration"
          | .error text => .error text)
        circumstance
  | .createAudio parsed =>
      performCreation protocol session state
        (parsed.map fun request =>
          request.creation record.objectId (.audio request.config) none)
        (match parsed with
          | .ok request =>
              if protocol.audioSupported request.config then .ok ()
              else .error "unsupported audio configuration"
          | .error text => .error text)
        circumstance
  | .setSourcePolicy parsed => setSourcePolicy protocol session state parsed
  | .updateSourceDescriptor parsed =>
      updateSourceDescriptor protocol session state parsed
  | .beginTxn parsed => beginTxn session state parsed
  | .createNode parsed => bufferNode session state record .create parsed
  | .updateNode parsed => bufferNode session state record .update parsed
  | .deleteNode parsed => deleteNode session state record parsed
  | .commitTxn parsed => commitTxn protocol session state parsed
  | .abortTxn parsed => abortTxn session state parsed
  | .destroySource parsed => destroySource protocol session state parsed
  | .play parsed => performPlay protocol session state parsed circumstance.now
  | .pause parsed => startPause session state parsed
  | .drain parsed => startPause session state parsed
  | .flush parsed => startFlush session state parsed
  | .eos parsed => startEos session state record parsed circumstance.spawns
  | .ping parsed => performPing session state record parsed
  | .goodbye parsed => performGoodbye session state parsed
  | .unknown isOptional =>
      if isOptional then (state, .done (.ok true))
      else refuse state "unsupported Vivid control record"

end

/-- One lock of a control thread. -/
def runTask
    (circumstance : Circumstance) :
    Task → State × Progress
  | .check [] record => perform protocol session state record circumstance
  | .check ((feature, text) :: rest) record =>
      if producerHasFeature state session.producer feature then
        (state, .next (.check rest record))
      else
        respond session state
          (.error record.objectId record.request .unsupportedFeature text)
  | .announce key =>
      let told := announceSource protocol state key
      (told.1, .done (told.2.map fun _ => true))
  | .setPlayback key envelope =>
      respondTo session
        (setPlayback protocol state key none envelope.causation
          circumstance.now)
        (.ok key.object envelope.request)
  | .flush key epoch envelope =>
      respondTo session
        (flushSource protocol state key epoch envelope.causation)
        (.ok key.object envelope.request)
  | .awaitDeliveries key epoch envelope =>
      if state.deliveries.entries.any fun entry => entry.2.source == key then
        (state, .next (.awaitDeliveries key epoch envelope))
      else (state, .next (.applyEos key epoch envelope))
  | .applyEos key epoch envelope =>
      respondTo session
        (applyInnerEos protocol state key epoch envelope.causation)
        (.ok key.object envelope.request)
  | .withdrawBarrier key =>
      refuse
        { state with
          pendingMediaBarriers := state.pendingMediaBarriers.erase key }
        "thread could not be started"

end

end Media
end Vvmux
