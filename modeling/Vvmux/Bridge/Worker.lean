import Vvmux.Bridge.OuterBridge
import Vvmux.Library.Machine

/-!
# The bridge worker

The session sends media bodies in chunks and projections as snapshots.  The
reader of the client queues the chunks, or drops them one by one where the
queue is full, and the worker takes them to the outer bridge.  One turn of the
worker's loop is cut where it takes a lock or looks at a channel.  The fields
marked as history are not in the source, and no function reads them.
-/

namespace Vvmux

open Library

namespace Bridge

/-- History: a media body that the session sends, in one chunk or more. -/
structure Delivery where
  id : Nat
  source : SourceKey
  recordType : MediaType
  first : List UInt8
  rest : List (List UInt8)

namespace Delivery

/-- All chunks of the delivery, one after another. -/
def body (delivery : Delivery) : List UInt8 :=
  (delivery.first :: delivery.rest).flatten

/-- The records of the chunks from an offset on. -/
def recordsFrom
    (delivery : Delivery)
    (number : Nat) :
    Nat → List (List UInt8) → List BridgeMedia
  | _, [] => []
  | offset, bytes :: rest =>
      { generation := 0
        deliveryId := delivery.id
        source := delivery.source
        recordType := delivery.recordType
        offset := offset
        total := delivery.body.length
        last := decide (offset + bytes.length = delivery.body.length)
        bytes := bytes
        delivery := number } ::
      recordsFrom delivery number (offset + bytes.length) rest

/-- `send_media_record` -/
def records (delivery : Delivery) (number : Nat) : List BridgeMedia :=
  delivery.recordsFrom number 0 (delivery.first :: delivery.rest)

end Delivery

/-- A projection of the session; nodes are only compared. -/
structure BridgeSnapshot where
  generation : Nat
  sources : List BridgeSource
  nodes : List Nat

inductive ProjectionChange where
  | playbackOnly
  | sceneOnly
  | sources
deriving DecidableEq

/-- `compare_projection` -/
def compareProjection
    (previousSources : List BridgeSource)
    (previousNodes : List Nat)
    (currentSources : List BridgeSource)
    (currentNodes : List Nat) : ProjectionChange :=
  if previousSources.length = currentSources.length ∧
      ∀ previous ∈ previousSources, ∃ current ∈ currentSources,
        previous.key = current.key ∧ previous.kind = current.kind then
    if previousNodes.length = currentNodes.length ∧
        ∀ previous ∈ previousNodes, previous ∈ currentNodes then
      .playbackOnly
    else .sceneOnly
  else .sources

/-- `source_is_playing` -/
def sourceIsPlaying (sources : List BridgeSource) (key : SourceKey) : Bool :=
  match sources.find? fun source => decide (source.key = key) with
  | none => false
  | some source =>
      source.playing ||
        match source.kind with
        | .audio _ (some video) => sources.any fun other =>
            decide (other.key = video) && other.playing
        | _ => false

/-- Where the worker is in its loop. -/
inductive Phase where
  /-- It asks the bridge for completions and events. -/
  | poll
  /-- It looks for a snapshot. -/
  | look
  /-- It answers the dropped deliveries. -/
  | answer
  /-- It takes a record. -/
  | take
deriving DecidableEq

structure Worker where
  /-- The records that the reader has not received yet. -/
  incoming : List BridgeMedia
  /-- `generation` of `BridgeWorker` -/
  generation : Nat
  snapshot : Option BridgeSnapshot
  queue : List BridgeMedia
  dropped : List Nat
  phase : Phase
  activeGeneration : Nat
  minimumMediaGeneration : OrderedMap SourceKey Nat
  retainedRehydration : List SourceKey
  activeSources : List BridgeSource
  activeNodes : List Nat
  startedSources : List SourceKey
  forceSources : Bool
  forceReplacement : Bool
  deferred : Option BridgeMedia
  bridge : OuterBridge
  /-- History: all deliveries that the session sent. -/
  deliveries : List Delivery
  /-- History: the deliveries of the chunks passed to `queue_media`. -/
  passed : List BridgeMedia
  /-- History: the `BridgeMediaAck` messages sent. -/
  acknowledged : List (Nat × Bool)

/-- What the worker does with a record. -/
inductive Verdict where
  | deferred
  | refused
  | ignored
  | forwarded
deriving DecidableEq

/-- How the application of a snapshot turns out. -/
inductive Applying where
  /-- Nothing failed. -/
  | done (cached : List SourceKey)
  /-- A new session was built, after a reconciliation that came so far. -/
  | replaced (failing : Option OuterBridge.Progress) (cached : List SourceKey)
  /-- It failed, after a reconciliation that came so far. -/
  | failed (failing : Option OuterBridge.Progress)

namespace Worker

def start :
    Worker where
  incoming := []
  generation := 0
  snapshot := none
  queue := []
  dropped := []
  phase := .poll
  activeGeneration := 0
  minimumMediaGeneration := .empty
  retainedRehydration := []
  activeSources := []
  activeNodes := []
  startedSources := []
  forceSources := false
  forceReplacement := false
  deferred := none
  bridge := .connect 0 [] [] [] []
  deliveries := []
  passed := []
  acknowledged := []

/-- `acknowledge_bridge_delivery` -/
def acknowledge
    (worker : Worker)
    (deliveryId : Nat)
    (delivered : Bool) : Worker :=
  if deliveryId = 0 then worker
  else
    { worker with
      acknowledged := (deliveryId, delivered) :: worker.acknowledged }

/-- `replace_snapshot` -/
def replaceSnapshot
    (worker : Worker)
    (sources : List BridgeSource)
    (nodes : List Nat) : Worker :=
  let generation := (worker.generation + 1) % 2 ^ 64
  { worker with
    generation := generation
    snapshot := some ⟨generation, sources, nodes⟩ }

/-- `queue_media`, where the queue has room or not. -/
def queueMedia (worker : Worker) (media : BridgeMedia) (room : Bool) : Worker :=
  if room then
    { worker with
      queue := worker.queue ++ [{ media with generation := worker.generation }]
      passed := media :: worker.passed }
  else
    { worker with
      dropped := media.deliveryId :: worker.dropped
      passed := media :: worker.passed }

/-- Completions are acknowledged, and lost sources make the next projection
one of sources. -/
def polled (worker : Worker) (losses : List SourceKey) : Worker :=
  let answered := worker.bridge.completions.foldl (fun worker completion =>
    worker.acknowledge completion.deliveryId completion.delivered) worker
  { answered with
    phase := .look
    forceSources := worker.forceSources || !losses.isEmpty
    bridge :=
      { worker.bridge.takeSourceLosses losses with
        completions := []
        rasterNeedsFull := [] } }

def change (worker : Worker) (snapshot : BridgeSnapshot) : ProjectionChange :=
  if worker.forceSources then .sources
  else
    compareProjection worker.activeSources worker.activeNodes snapshot.sources
      snapshot.nodes

/-- The bridge after a reconciliation that came so far. -/
def failing
    (bridge : OuterBridge)
    (sources : List BridgeSource) :
    Option OuterBridge.Progress → OuterBridge
  | none => bridge
  | some progress => bridge.reconcilePart sources progress

/-- The bridge after a snapshot, and the sources that were created, unless it
failed; nothing where the outcome does not fit. -/
def applyTo
    (worker : Worker)
    (snapshot : BridgeSnapshot) :
    Applying → Option (OuterBridge × Option (List SourceKey))
  | .done cached =>
      match worker.change snapshot with
      | .sources =>
          if worker.forceReplacement then none
          else
            some (worker.bridge.reconcile snapshot.sources cached,
              some (worker.bridge.recreated snapshot.sources))
      | _ => some (worker.bridge, some [])
  | .replaced progress cached =>
      if worker.change snapshot = .sources ∧
          (worker.forceReplacement = true → progress.isNone) then
        some ((failing worker.bridge snapshot.sources progress).replaceSession
            snapshot.sources cached,
          some (snapshot.sources.map BridgeSource.key))
      else none
  | .failed progress =>
      if progress.isNone ∨
          worker.change snapshot = .sources ∧
            worker.forceReplacement = false then
        some (failing worker.bridge snapshot.sources progress, none)
      else none

/-- What a projection of other sources changes in the worker. -/
def resetSources
    (worker : Worker)
    (snapshot : BridgeSnapshot)
    (recreated : List SourceKey) : Worker :=
  let current := snapshot.sources.map BridgeSource.key
  let again := snapshot.sources.filter fun source =>
    decide (source.key ∈ recreated)
  { worker with
    minimumMediaGeneration := again.foldl (fun minimum source =>
        minimum.insert source.key snapshot.generation)
      (worker.minimumMediaGeneration.filter fun key _ =>
        decide (key ∈ current))
    retainedRehydration := again.foldl (fun retained source =>
        match source.kind with
        | .raster _ => source.key :: retained
        | .image _ => source.key :: retained
        | _ => retained.filter fun key => decide (key ≠ source.key))
      (worker.retainedRehydration.filter fun key => decide (key ∈ current))
    startedSources := worker.startedSources.filter fun key =>
      decide (key ∈ current ∧ key ∉ again.map BridgeSource.key) }

/-- The worker after a snapshot that was applied. -/
def projected
    (worker : Worker)
    (snapshot : BridgeSnapshot)
    (bridge : OuterBridge)
    (recreated : List SourceKey) : Worker :=
  let reset :=
    if worker.change snapshot = .sources then
      worker.resetSources snapshot recreated
    else worker
  { reset with
    snapshot := none
    phase := .poll
    bridge := bridge
    forceSources := false
    forceReplacement := false
    activeGeneration := snapshot.generation
    activeSources := snapshot.sources
    activeNodes := snapshot.nodes
    startedSources := reset.startedSources ++
      (snapshot.sources.filter fun source =>
        sourceIsPlaying snapshot.sources source.key).map BridgeSource.key }

/-- The worker looks for a snapshot and applies it. -/
def looked (worker : Worker) (applying : Applying) : Option Worker :=
  match worker.snapshot with
  | none => some { worker with phase := .answer }
  | some snapshot =>
      (worker.applyTo snapshot applying).map fun (bridge, recreated) =>
        match recreated with
        | none =>
            { worker with
              snapshot := none
              phase := .poll
              bridge := bridge
              forceSources := true
              forceReplacement := true }
        | some recreated => worker.projected snapshot bridge recreated

/-- `complete_dropped_deliveries` -/
def answered (worker : Worker) : Worker :=
  let answered := worker.dropped.foldl (fun worker deliveryId =>
    worker.acknowledge deliveryId false) worker
  let retry := decide (0 ∈ worker.dropped)
  { answered with
    phase := .take
    dropped := []
    forceSources := worker.forceSources || retry
    forceReplacement := worker.forceReplacement || retry }

/-- The record that the worker takes, and the queue after it. -/
def nextMedia (worker : Worker) : Option (BridgeMedia × List BridgeMedia) :=
  match worker.deferred with
  | some media => some (media, worker.queue)
  | none =>
      match worker.queue with
      | [] => none
      | media :: rest => some (media, rest)

def verdict (worker : Worker) (media : BridgeMedia) : Verdict :=
  if worker.snapshot.isSome then .deferred
  else if media.generation <
        (worker.minimumMediaGeneration.find? media.source).getD 0 ∨
      worker.activeGeneration < media.generation then .refused
  else if media.deliveryId = 0 ∧ media.source ∉ worker.retainedRehydration then
    .ignored
  else if !worker.activeSources.any fun source =>
      decide (source.key = media.source) then .refused
  else if (media.recordType = .videoPacket ∨ media.recordType = .audioPacket) ∧
      sourceIsPlaying worker.activeSources media.source = false ∧
      media.source ∈ worker.startedSources then .refused
  else .forwarded

/-- `hydrates_retained_source` -/
def hydratesRetainedSource :
    MediaType → Bool
  | .rasterFrame => true
  | .imageData => true
  | _ => false

/-- A record goes to the bridge. -/
def forwarded
    (worker : Worker)
    (media : BridgeMedia)
    (outcome : Reorigination) : Worker :=
  let (bridge, result) := worker.bridge.mediaChunk media outcome
  let worker := { worker with bridge := bridge }
  match result with
  | .ok true =>
      if hydratesRetainedSource media.recordType then
        { worker with
          retainedRehydration := worker.retainedRehydration.filter fun key =>
            decide (key ≠ media.source) }
      else worker
  | .ok false => worker
  | .error _ => { worker with dropped := media.deliveryId :: worker.dropped }

/-- The worker takes a record, or has waited for one. -/
def taken (worker : Worker) (outcome : Reorigination) : Worker :=
  match worker.nextMedia with
  | none => { worker with phase := .poll }
  | some (media, rest) =>
      let worker :=
        { worker with
          phase := .poll
          deferred := none
          queue := rest }
      match worker.verdict media with
      | .deferred => { worker with deferred := some media }
      | .refused => worker.acknowledge media.deliveryId false
      | .ignored => worker
      | .forwarded => worker.forwarded media outcome

end Worker

inductive WorkerEvent where
  /-- The session sends a delivery. -/
  | send (delivery : Delivery)
  /-- The reader passes a record to `queue_media`. -/
  | queueMedia (room : Bool)
  | replaceSnapshot (sources : List BridgeSource) (nodes : List Nat)
  | poll (losses : List SourceKey)
  | look (applying : Applying)
  | answer
  | take (outcome : Reorigination)
  | writerTakes (index : Nat)
  | writerFinishes (index : Nat) (delivered : Bool)
  | writerEnds (index : Nat)

open Worker

/-- One event; nothing where it cannot happen. -/
def workerStep
    (worker : Worker) :
    WorkerEvent → Option Worker
  | .send delivery =>
      if 2 ^ 32 ≤ delivery.body.length then none
      else
        some { worker with
          incoming := worker.incoming ++
            delivery.records worker.deliveries.length
          deliveries := worker.deliveries ++ [delivery] }
  | .queueMedia room =>
      match worker.incoming with
      | [] => none
      | media :: rest =>
          some ({ worker with incoming := rest }.queueMedia media room)
  | .replaceSnapshot sources nodes =>
      some (worker.replaceSnapshot sources nodes)
  | .poll losses =>
      if worker.phase = .poll then some (worker.polled losses) else none
  | .look applying =>
      if worker.phase = .look then worker.looked applying else none
  | .answer => if worker.phase = .answer then some worker.answered else none
  | .take outcome =>
      if worker.phase = .take then some (worker.taken outcome) else none
  | .writerTakes index =>
      (worker.bridge.writerTakes index).map fun bridge =>
        { worker with bridge := bridge }
  | .writerFinishes index delivered =>
      (worker.bridge.writerFinishes index delivered).map fun bridge =>
        { worker with bridge := bridge }
  | .writerEnds index =>
      (worker.bridge.writerEnds index).map fun bridge =>
        { worker with bridge := bridge }

def workerMachine :
    Machine Worker WorkerEvent where
  initial worker := worker = .start
  step before event after := workerStep before event = some after

end Bridge
end Vvmux
