import Vvmux.Media.Credit
import Vvmux.Media.Scene

/-!
# Calls from the session

The session revokes panes, tells their sizes, reports markers and scrolling,
takes snapshots of what is to be projected, completes deliveries, and passes
on what the outer presenter asks for.
-/

namespace Vvmux
namespace Media

open Library

variable (protocol : Protocol)

/-- The producers of a pane. -/
def State.producersOf (state : State) (pane : PaneId) : List ProducerId :=
  (state.producers.filter fun _ producer => producer.pane == pane).keys

/-- `advance_scene` for several producers; errors are dropped. -/
def advanceScenes
    (state : State)
    (producers : List ProducerId)
    (reason : SceneReason) : State :=
  producers.foldl
    (fun state producer => (advanceScene protocol state producer reason).1)
    state

/-- `issue_pane_capability` -/
def issuePaneCapability (state : State) (pane : PaneId) (token : Nat) : State :=
  { state with capabilities := state.capabilities.insert pane token }

/-- A pane's sizes and capability are gone for good. -/
def State.forgetPane (state : State) (pane : PaneId) : State :=
  { state with
    metrics := state.metrics.erase pane
    revoked := pane :: state.revoked }

/-- `revoke_pane`, up to the cancelling of its connections. -/
def revokePane (state : State) (pane : PaneId) : State :=
  let disowned :=
    { state with capabilities := state.capabilities.erase pane }
  let cleaned := (disowned.producersOf pane).foldl
    (fun state producer => cleanupProducer protocol state producer false)
    disowned
  let cleared := { cleaned with
    nodes := cleaned.nodes.filter fun _ node => node.pane != pane }
  advanceProjection ((pruneOrphanedSources cleared).forgetPane pane)

/-- The display a pane has under new sizes. -/
def nextDisplay
    (previous : Option Display)
    (columns rows cellWidth cellHeight : Nat) : Display where
  generation := previous.elim 1 fun display => (display.generation + 1) % 2 ^ 64
  viewportWidth := columns * cellWidth
  viewportHeight := rows * cellHeight
  gridColumns := columns
  gridRows := rows
  cellWidth := cellWidth
  cellHeight := cellHeight

/-- `update_metrics` -/
def updateMetrics
    (state : State)
    (pane : PaneId)
    (columns rows cellWidth cellHeight : Nat) : State :=
  let display :=
    nextDisplay (state.metrics.find? pane) columns rows cellWidth cellHeight
  if !display.usable then state
  else
    (state.producersOf pane).foldl
      (fun state producer =>
        state.writeIfConnected producer (.displayChanged display))
      { state with metrics := state.metrics.insert pane display }

/-- The producer a marker on a pane is of. -/
def State.markerProducer
    (state : State)
    (pane : PaneId)
    (marker : Marker) : Option (ProducerId × Producer) :=
  state.producers.entries.find? fun entry =>
    entry.2.pane == pane && entry.2.tag == marker.sessionTag &&
      protocol.verifyMarker entry.2.anchorKey marker

/-- The producer registers the anchor of a marker. -/
def Producer.accepts (producer : Producer) (marker : Marker) : Bool :=
  decide (producer.seenAnchors.length < maxSeenAnchors) &&
    !producer.seenAnchors.contains marker.anchorId && producer.connected

/-- Register an anchor. -/
def State.registerAnchor
    (state : State)
    (producerId : ProducerId)
    (anchor : Nat)
    (place : Int × Nat) : State :=
  state.updateProducer producerId fun producer =>
    { producer with
      seenAnchors := anchor :: producer.seenAnchors
      anchors := producer.anchors.insert anchor place }

/-- `observe_marker` of a marker that parses. -/
def observeMarker
    (state : State)
    (pane : PaneId)
    (marker : Marker)
    (line : Int)
    (column : Nat) : State :=
  match state.markerProducer protocol pane marker with
  | none => state
  | some (producerId, producer) =>
      if !producer.accepts marker then state
      else
        let registered :=
          state.registerAnchor producerId marker.anchorId (line, column)
        let told := advanceScene protocol registered producerId .producerCommit
        (advanceProjection told.1).write producerId
          (.anchorReady marker.anchorId)

/-- `i32::saturating_sub` -/
def saturatingSubI32 (left right : Int) : Int :=
  max (-2147483648) (min (left - right) 2147483647)

/-- Move the anchors of a pane's producers, and where its nodes retain
theirs. -/
def State.moveAnchors (state : State) (pane : PaneId) (lines : Int) : State :=
  { state with
    producers := state.producers.mapValues fun _ producer =>
      if producer.pane = pane then
        { producer with
          anchors := producer.anchors.mapValues fun _ place =>
            (saturatingSubI32 place.1 lines, place.2) }
      else producer
    nodes := state.nodes.mapValues fun _ node =>
      if node.pane = pane then
        { node with
          retainedAnchor := node.retainedAnchor.map fun place =>
            (saturatingSubI32 place.1 lines, place.2) }
      else node }

/-- `scroll_anchors` -/
def scrollAnchors (state : State) (pane : PaneId) (lines : Int) : State :=
  advanceProjection (advanceScenes protocol (state.moveAnchors pane lines)
    (state.producersOf pane) .producerCommit)

/-- Forget the anchors of a pane's producers. -/
def State.dropAnchors (state : State) (pane : PaneId) : State :=
  { state with
    producers := state.producers.mapValues fun _ producer =>
      if producer.pane = pane then { producer with anchors := .empty }
      else producer }

/-- `clear_anchors` -/
def clearAnchors (state : State) (pane : PaneId) : State :=
  let dropped := state.dropAnchors pane
  let cleared := { dropped with
    nodes := dropped.nodes.filter fun _ node =>
      node.pane != pane || node.retainedAnchor.isNone }
  advanceProjection (advanceScenes protocol (pruneOrphanedSources cleared)
    (state.producersOf pane) .anchorGone)

/-! ## Snapshots -/

/-- `i64` additions and multiplications that may overflow. -/
def checkedI64 (value : Int) : Option Int :=
  if -(2 ^ 63) ≤ value ∧ value < 2 ^ 63 then some value else none

/-- A node as the snapshot shows it: an anchored node stands at its anchor,
and is left out while the anchor is unknown. -/
def State.resolveNode
    (state : State)
    (viewportOffset : PaneId → Nat)
    (node : SceneNode) : Option SceneNode :=
  match node.config.anchorId with
  | none => some node
  | some anchor => do
      let live := (state.producers.find? node.producer).bind fun producer =>
        producer.anchors.find? anchor
      let place ← live.or node.retainedAnchor
      let offsetX := asI64 (place.2 * 2 ^ 32 % 2 ^ 64)
      let offset ← checkedI64 (viewportOffset node.pane)
      let line ← checkedI64 (place.1 + offset)
      let offsetY ← checkedI64 (line * 2 ^ 32)
      let x ← checkedI64 (node.config.x + offsetX)
      let y ← checkedI64 (node.config.y + offsetY)
      let clip ← match node.config.clip with
        | none => some none
        | some clip => do
            let clipX ← checkedI64 (clip.x + offsetX)
            let clipY ← checkedI64 (clip.y + offsetY)
            pure (some { clip with x := clipX, y := clipY })
      pure
        { node with
          config :=
            { node.config with
              x := x
              y := y
              clip := clip
              anchorId := none } }

section

variable (state : State) (panes : List PaneId) (viewportOffset : PaneId → Nat)

/-- The nodes a snapshot of some panes shows. -/
def State.snapshotNodes : List SceneNode :=
  ((state.nodes.entries.map Prod.snd).filter fun node =>
    panes.contains node.pane).filterMap (state.resolveNode viewportOffset)

/-- A source of a snapshot's panes, or one that a shown node refers to. -/
def State.inSnapshot
    (state : State)
    (panes : List PaneId)
    (nodes : List SceneNode)
    (key : SourceKey)
    (source : Source) : Bool :=
  (state.producers.find? source.owner).any
      (fun producer => panes.contains producer.pane) ||
    nodes.any fun node => node.source == key

/-- The sources a snapshot projects. -/
def State.snapshotSources : List (SourceKey × Source) :=
  let nodes := state.snapshotNodes panes viewportOffset
  (state.sources.filter (state.inSnapshot panes nodes)).entries

/-- The elements of exactly one of two lists. -/
def symmetricDifference
    {α : Type}
    [DecidableEq α]
    (first second : List α) : List α :=
  (first.filter fun element => !second.contains element) ++
    second.filter fun element => !first.contains element

/-- `advance_source` for several sources; errors are dropped. -/
def advanceSources
    (state : State)
    (sources : List SourceKey)
    (changed : List SourceChange) : State :=
  sources.foldl
    (fun state key => (advanceSource protocol state key changed).1) state

/-- `projection_snapshot_with_viewports`: what it does to the state. -/
def projectionSnapshot : State :=
  let projected := (state.snapshotSources panes viewportOffset).map Prod.fst
  let hidden := (state.deliveries.filter fun _ pending =>
    !projected.contains pending.source).keys
  let changes := symmetricDifference state.projectedSources projected
  let released :=
    takeDeliveries { state with projectedSources := projected } hidden
  advanceSources protocol { released with activePanes := panes } changes
    [.visibility]

end

/-! ## Deliveries and requests of the outer presenter -/

/-- `deactivate_bridge` -/
def deactivateBridge (state : State) : State :=
  takeDeliveries
    { state with
      projectedSources := []
      sources := state.sources.mapValues fun _ source =>
        if source.descriptor.isVideo && source.playing then
          { source with bridgeDesynchronized := true }
        else source }
    state.deliveries.keys

section

variable (state : State) (key : SourceKey)

/-- What the end of a delivery means for its source, besides its credit: the
state, and whether a key frame is to be requested. -/
def concludeDelivery
    (delivered : Bool) : State × Bool :=
  match state.sources.find? key with
  | none => (state, false)
  | some source =>
      if !state.isProjected key then (state, false)
      else if delivered then
        (state.updateSource key fun source =>
          { source with
            milestones := .firstVisiblePresentation :: source.milestones },
          false)
      else if source.descriptor.isVideo && !source.ended then
        (state.updateSource key fun source =>
          { source with bridgeDesynchronized := true }, true)
      else (state, false)

/-- `complete_bridge_delivery`, up to the request for a key frame. -/
def completeBridgeDelivery
    (state : State)
    (delivery : Nat)
    (delivered : Bool) : State × Bool :=
  match state.deliveries.find? delivery with
  | none => (state, false)
  | some pending =>
      let concluded := concludeDelivery (state.dropDelivery delivery pending)
        pending.source delivered
      let told := advanceSource protocol concluded.1 pending.source
        (if delivered then [.milestones, .creditAccounting]
        else [.creditAccounting])
      (returnCredit told.1 pending.source pending.creditBytes, concluded.2)

/-- `normalize_keyframe_reason` -/
def normalizeKeyframeReason :
    KeyframeReason → KeyframeReason
  | .other _ => .decoderError
  | reason => reason

/-- The least epoch a requested key frame may have. -/
def requestedEpoch
    (currentEpoch : Nat)
    (requestedMinimum : Option Nat)
    (reason : KeyframeReason) : Nat :=
  if reason = .transportLoss then currentEpoch
  else
    match requestedMinimum with
    | some minimum => max minimum currentEpoch
    | none =>
        if reason = .initial then currentEpoch
        else saturatingAdd u32Max currentEpoch 1

/-- A request adds nothing to the one that is pending. -/
def keyframeDamped
    (source : Source)
    (minimumEpoch : Nat)
    (reason : KeyframeReason) : Bool :=
  source.pendingKeyframeReason.any fun pending =>
    decide (minimumEpoch ≤ source.minimumEpoch) &&
      !(pending == .transportLoss && reason != .transportLoss)

/-- The reason that is sent for a request beside the one that is pending. -/
def emittedReason
    (pending : Option KeyframeReason)
    (reason : KeyframeReason) : KeyframeReason :=
  match pending with
  | none => reason
  | some pending =>
      if pending = reason ∨ pending = .transportLoss then reason
      else if reason = .transportLoss then pending
      else .decoderError

/-- One request of `request_keyframe_recoveries`. -/
def requestKeyframe
    (requestedMinimum : Option Nat)
    (requestedReason : KeyframeReason) : State :=
  match state.sources.find? key with
  | none => state
  | some source =>
      if !source.descriptor.isVideo || source.ended then state
      else
        let reason := normalizeKeyframeReason requestedReason
        let minimumEpoch := requestedEpoch (protocol.epoch source.sequence)
          requestedMinimum reason
        if keyframeDamped source minimumEpoch reason then state
        else if !state.connected key.producer then state
        else
          let epoch := max source.minimumEpoch minimumEpoch
          let reason := emittedReason source.pendingKeyframeReason reason
          (state.updateSource key fun source =>
            { source with
              minimumEpoch := epoch
              pendingKeyframeReason := some reason
              bridgeDesynchronized := true }).write key.producer
                (.needKeyframe key.object epoch reason)

/-- One source of `request_full_frames`. -/
def requestFullFrame
    (reason : FullFrameReason) : State :=
  match state.sources.find? key with
  | none => state
  | some source =>
      if !source.descriptor.isRaster || source.ended then state
      else if source.rasterRequiresFullReason = some reason then state
      else
        let marked := state.updateSource key fun source =>
          { source with rasterRequiresFullReason := some reason }
        match protocol.encode (.needFullFrame key.object reason) with
        | .error _ => marked
        | .ok _ =>
            marked.writeIfConnected key.producer
              (.needFullFrame key.object reason)

/-- What the outer presenter reports of a playback. -/
inductive OuterPlayback where
  | playing
  /-- Ended, with the outer `EOS` accepted. -/
  | ended
  | other
deriving DecidableEq

/-- `apply_outer_playback` -/
def applyOuterPlayback
    (playback : OuterPlayback) : State :=
  if key ∉ state.sources then state
  else
    match playback with
    | .playing =>
        (advanceSource protocol
          (state.updateSource key fun source =>
            { source with
              milestones := .playbackStarted :: source.milestones })
          key [.playback, .milestones]).1
    | .ended =>
        (advanceSource protocol
          (advanceProjection (state.updateSource key fun source =>
            { source with
              playing := false
              milestones := .playbackEnded :: source.milestones }))
          key [.playback, .lifecycle, .milestones]).1
    | .other => (advanceSource protocol state key [.playback]).1

end

/-- `notify_capabilities_changed`: the next generation, told to every
producer whose writer is still there. -/
def notifyCapabilitiesChanged (state : State) : State :=
  match checkedAdd u64Max state.capabilityGeneration 1 with
  | none => state
  | some generation =>
      state.producers.keys.foldl
        (fun state producer =>
          state.writeIfConnected producer (.capabilitiesChanged generation))
        { state with capabilityGeneration := generation }

end Media
end Vvmux
