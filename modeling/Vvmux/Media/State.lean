import Vvmux.Media.Records

/-!
# State of the virtual presenter

`State` and the records it keeps.  Diagnostic counters and the trace are left
out; nothing here reads them.  A byte count of bodies that are in memory is a
natural number.  The fields marked as history are not in the source, and no
function reads them.
-/

namespace Vvmux
namespace Media

open Library

def initialPacketCredits : Nat := 1
def rollingPacketCredits : Nat := 8
def maxProducers : Nat := 16
def maxConnections : Nat := 64
def maxRegisteredWaits : Nat := 64
def maxPendingMediaBarriers : Nat := 64
def maxSeenAnchors : Nat := 4096
/-- `MAX_WAIT_TIMEOUT` in microseconds. -/
def maxWaitTimeoutUs : Nat := 24 * 60 * 60 * 1000000

structure Config where
  aggregateRetainedBytes : Nat
  maxSources : Nat
  maxNodes : Nat
  maxAnchors : Nat
  ipcQueueBytes : Nat
deriving DecidableEq

/-- The limits a configuration file leaves out. -/
def Config.standard : Config where
  aggregateRetainedBytes := 256 * 1024 * 1024
  maxSources := 64
  maxNodes := 256
  maxAnchors := 256
  ipcQueueBytes := 32 * 1024 * 1024

structure SceneNode where
  producer : ProducerId
  pane : PaneId
  config : NodeConfig
  retainedAnchor : Option (Int × Nat)
deriving DecidableEq

/-- `Mutation` -/
inductive Mutation where
  | create (node : SceneNode)
  | update (node : SceneNode)
  | delete (producer : ProducerId) (nodeId : Nat)
deriving DecidableEq

structure PendingDelivery where
  source : SourceKey
  creditBytes : Nat
  queuedBytes : Nat
  /-- History: the serial of the source that accepted the record. -/
  serial : Nat
deriving DecidableEq

/-- The body a source retains for a later projection: its length and, for a
raster source, the frame it holds. -/
structure Retained where
  length : Nat
  frame : Option FullFrame
deriving DecidableEq

/-- What became of an event offered to a producer's observation queue, under
its sequence number.  Only source and scene events report a loss. -/
inductive Emission where
  | scene (sequence : Nat) (firstLost : Option Nat) (enqueued : Bool)
  | source (sequence : Nat) (firstLost : Option Nat) (enqueued : Bool)
  | playback (sequence : Nat) (enqueued : Bool)
deriving DecidableEq

structure Producer where
  pane : PaneId
  tag : Nat
  anchorKey : Nat
  /-- Whether the control connection's writer still exists. -/
  connected : Bool
  features : List Feature
  anchors : OrderedMap Nat (Int × Nat)
  seenAnchors : List Nat
  sceneRevision : Nat
  observationMask : List Observation
  observationSequence : Nat
  firstLostSourceSequence : Option Nat
  firstLostSceneSequence : Option Nat
  waits : OrderedMap Nat PendingSourceWait
  /-- History: the events offered to the observation queue, the latest
  first. -/
  emissions : List Emission

structure Source where
  /-- History: how many sources were created before this one. -/
  serial : Nat
  owner : ProducerId
  descriptor : SourceDescriptor
  retained : Option Retained
  sequence : MediaSequence
  retainedBytes : Nat
  playing : Bool
  playRequest : PlayRequest
  ended : Bool
  eosEpoch : Option Nat
  bridgeDesynchronized : Bool
  minimumEpoch : Nat
  pendingKeyframeReason : Option KeyframeReason
  lastPtsUs : Option Int
  clockStarted : Option Nat
  clockOriginPtsUs : Option Int
  lastInnerRecordSequence : Nat
  revision : Nat
  attachmentState : AttachmentState
  attachmentGeneration : Nat
  creditWindowBytes : Nat
  creditWindowPackets : Nat
  outstandingByteCredit : Nat
  outstandingPacketCredit : Nat
  chargedBytes : Nat
  chargedPackets : Nat
  lastMediaId : Nat
  milestones : List Milestone
  causationId : Option Nat
  capturePolicy : Nat
  semanticDescriptor : Option SemanticDescriptor
  rasterUpdate : Option RasterUpdateConfig
  rasterRequiresFullReason : Option FullFrameReason
  rasterDamageWindowStarted : Nat
  rasterDamagePixels : Nat
  /-- History: the epoch of the latest `FLUSH`. -/
  flushEpoch : Nat
  /-- History: the tickets the source was attached with. -/
  attachedWith : List Nat
deriving DecidableEq

structure Ticket where
  source : SourceKey
  kind : ConnectionKind
  maximumBody : Nat
  /-- History: the serial of the source the ticket was made for. -/
  serial : Nat
deriving DecidableEq

structure State where
  config : Config
  capabilityGeneration : Nat
  /-- The pane of each capability token. -/
  capabilities : OrderedMap PaneId Nat
  metrics : OrderedMap PaneId Display
  producers : OrderedMap ProducerId Producer
  sources : OrderedMap SourceKey Source
  nodes : OrderedMap ObjectKey SceneNode
  transactions : OrderedMap ObjectKey (List Mutation)
  tickets : OrderedMap Nat Ticket
  nextProducer : ProducerId
  retainedBytes : Nat
  connections : Nat
  projectionRevision : Nat
  projectedSources : List SourceKey
  activePanes : List PaneId
  deliveries : OrderedMap Nat PendingDelivery
  pendingMediaBarriers : List ObjectKey
  nextDeliveryId : Nat
  queuedBridgeBytes : Nat
  /-- Whether there is an event queue towards the session. -/
  events : Bool
  nextConnection : Nat
  /-- The panes of the open connections. -/
  connectionCancellers : OrderedMap Nat (Option PaneId)
  /-- History: how many sources were created. -/
  created : Nat
  /-- History: the pane of every producer that was admitted. -/
  admitted : OrderedMap ProducerId PaneId
  /-- History: the panes that were revoked. -/
  revoked : List PaneId
  /-- History: the deliveries whose credit went back, the latest first. -/
  returned : List Nat
  /-- History: the records written to producers and the observations queued
  for them, the latest first. -/
  outbox : List (ProducerId × Reply)
  /-- History: whether a saturating subtraction of byte counts has been cut
  off. -/
  saturated : Bool

namespace State

/-- Rewrite one source. -/
def updateSource
    (state : State)
    (key : SourceKey)
    (change : Source → Source) : State :=
  { state with sources := state.sources.modify key change }

/-- Rewriting depends only on what is done to the source that is there. -/
theorem updateSource_congr
    {state : State}
    {key : SourceKey}
    {source : Source}
    {first second : Source → Source}
    (found : state.sources.find? key = some source)
    (same : first source = second source) :
    state.updateSource key first = state.updateSource key second := by
  unfold updateSource
  rw [OrderedMap.modify_congr found same]

/-- Rewrite one producer. -/
def updateProducer
    (state : State)
    (producer : ProducerId)
    (change : Producer → Producer) : State :=
  { state with producers := state.producers.modify producer change }

/-- Write a record to a producer. -/
def write (state : State) (producer : ProducerId) (reply : Reply) : State :=
  { state with outbox := (producer, reply) :: state.outbox }

/-- Whether the writer of a producer can still be upgraded. -/
def connected (state : State) (producer : ProducerId) : Bool :=
  (state.producers.find? producer).any Producer.connected

/-- Write a record if the producer's writer is still there. -/
def writeIfConnected
    (state : State)
    (producer : ProducerId)
    (reply : Reply) : State :=
  if state.connected producer then state.write producer reply else state

/-- `retained_bytes.saturating_sub(bytes)` -/
def releaseRetained (state : State) (bytes : Nat) : State :=
  { state with
    retainedBytes := state.retainedBytes - bytes
    saturated := state.saturated || decide (state.retainedBytes < bytes) }

/-- `queued_bridge_bytes.saturating_sub(bytes)` -/
def releaseQueued (state : State) (bytes : Nat) : State :=
  { state with
    queuedBridgeBytes := state.queuedBridgeBytes - bytes
    saturated := state.saturated || decide (state.queuedBridgeBytes < bytes) }

def isProjected (state : State) (key : SourceKey) : Bool :=
  state.projectedSources.contains key

/-- The state of a presenter that has just started. -/
def start (config : Config) (events : Bool) : State where
  config := config
  capabilityGeneration := 1
  capabilities := .empty
  metrics := .empty
  producers := .empty
  sources := .empty
  nodes := .empty
  transactions := .empty
  tickets := .empty
  nextProducer := 0
  retainedBytes := 0
  connections := 0
  projectionRevision := 0
  projectedSources := []
  activePanes := []
  deliveries := .empty
  pendingMediaBarriers := []
  nextDeliveryId := 0
  queuedBridgeBytes := 0
  events := events
  nextConnection := 0
  connectionCancellers := .empty
  created := 0
  admitted := .empty
  revoked := []
  returned := []
  outbox := []
  saturated := false

end State

end Media
end Vvmux
