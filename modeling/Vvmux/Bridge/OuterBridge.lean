import Mathlib.Algebra.Order.Ring.Nat
import Vvmux.Media.Records

/-!
# The bridge to the outer presenter

The bridge puts media bodies together from their chunks and hands them to one
writer thread for each source.  What the outer presenter answers, and whether
a raster body can be encoded again, comes with the events.  The fields marked
as history are not in the source, and no function reads them.
-/

namespace Vvmux

open Library

namespace Bridge

export Media (SourceKey)

/-- The record types that the bridge tells apart. -/
inductive MediaType where
  | videoPacket
  | audioPacket
  | rasterFrame
  | imageData
  | other (code : Nat)
deriving DecidableEq

/-- What a source is; `config` stands for all that is only compared. -/
inductive BridgeSourceKind where
  | raster (config : Nat)
  | image (config : Nat)
  | video (config : Nat)
  | audio (config : Nat) (linkedVideo : Option SourceKey)
deriving DecidableEq

namespace BridgeSourceKind

def isRaster :
    BridgeSourceKind → Bool
  | .raster _ => true
  | _ => false

def isImage :
    BridgeSourceKind → Bool
  | .image _ => true
  | _ => false

/-- The place of a source in the order of creation. -/
def rank :
    BridgeSourceKind → Nat
  | .video _ => 0
  | .raster _ => 1
  | .image _ => 1
  | .audio _ _ => 2

end BridgeSourceKind

structure BridgeSource where
  key : SourceKey
  kind : BridgeSourceKind
  playing : Bool
deriving DecidableEq

/-- One chunk of a media body. -/
structure BridgeMedia where
  generation : Nat
  deliveryId : Nat
  source : SourceKey
  recordType : MediaType
  offset : Nat
  total : Nat
  last : Bool
  bytes : List UInt8
  /-- History: the number of the delivery that the chunk is from. -/
  delivery : Nat

structure PendingBody where
  recordType : MediaType
  total : Nat
  received : Nat
  cachedImage : Bool
  bytes : List UInt8
  /-- History: the delivery of the chunk that came last. -/
  delivery : Nat

structure MediaWrite where
  deliveryId : Nat
  recordType : MediaType
  objectId : Nat
  body : List UInt8
  /-- History: the delivery that it is for. -/
  delivery : Nat
  /-- History: the source that it is for. -/
  source : SourceKey
  /-- History: the body as it was put together. -/
  assembled : List UInt8

structure MediaCompletion where
  deliveryId : Nat
  delivered : Bool
  /-- History: the delivery that it is for. -/
  delivery : Nat

/-- `MEDIA_WRITER_QUEUE` -/
def mediaWriterQueue : Nat := 32

/-- A thread that runs `run_media_writer`. -/
structure MediaWriter where
  queue : List MediaWrite
  /-- The write that waits for credit or for the transport. -/
  current : Option MediaWrite
  running : Bool
  /-- The completion channel that it sends to. -/
  channel : Nat

/-- History: a body that was put together and encoded again. -/
structure Reoriginated where
  delivery : Nat
  deliveryId : Nat
  source : SourceKey
  recordType : MediaType
  body : List UInt8

/-- The bridge, its writer threads, and those of the sessions before. -/
structure OuterBridge where
  /-- The completion channel of this session. -/
  channel : Nat
  nextSource : Nat
  sourceIds : OrderedMap SourceKey Nat
  /-- The writer of each source, by its place among the writers. -/
  media : OrderedMap SourceKey Nat
  pending : OrderedMap SourceKey PendingBody
  /-- What the completion channel of this session holds. -/
  completions : List MediaCompletion
  sourceKinds : OrderedMap SourceKey BridgeSourceKind
  rasterFrameIds : OrderedMap SourceKey Nat
  rasterNeedsFull : List SourceKey
  activeSources : List BridgeSource
  cachedImages : List SourceKey
  writers : List MediaWriter
  /-- History -/
  reoriginated : List Reoriginated
  /-- History: all writes that were handed to a writer. -/
  written : List MediaWrite
  /-- History: all completions that were sent. -/
  completed : List MediaCompletion

/-- How the encoding of a raster body turns out. -/
inductive Reorigination where
  | failed
  /-- A delta that does not extend the chain of the bridge. -/
  | unusable
  | encoded (body : List UInt8)

inductive MediaError where
  | sequenceGap
  | exceedsTotal
  | incomplete
  | notImage
  | sourceMissing
  | frameIdsExhausted
  | reoriginationFailed
  | channelMissing
  | writerQueueFull
  | writerStopped
deriving DecidableEq

namespace OuterBridge

/-- `connect_with_factory_and_extensions`: a new session beside the threads of
those before. -/
def connect
    (channel : Nat)
    (writers : List MediaWriter)
    (reoriginated : List Reoriginated)
    (written : List MediaWrite)
    (completed : List MediaCompletion) : OuterBridge where
  channel := channel
  nextSource := 0
  sourceIds := .empty
  media := .empty
  pending := .empty
  completions := []
  sourceKinds := .empty
  rasterFrameIds := .empty
  rasterNeedsFull := []
  activeSources := []
  cachedImages := []
  writers := writers
  reoriginated := reoriginated
  written := written
  completed := completed

/-! ## `media_chunk` -/

/-- The pending body of the source, or a new one. -/
def pendingBody (bridge : OuterBridge) (media : BridgeMedia) : PendingBody :=
  (bridge.pending.find? media.source).getD
    { recordType := media.recordType
      total := media.total
      received := 0
      cachedImage := decide (media.source ∈ bridge.cachedImages)
      bytes := []
      delivery := media.delivery }

def removePending (bridge : OuterBridge) (key : SourceKey) : OuterBridge :=
  { bridge with pending := bridge.pending.erase key }

def complete
    (bridge : OuterBridge)
    (completion : MediaCompletion) : OuterBridge :=
  { bridge with
    completions := bridge.completions ++ [completion]
    completed := completion :: bridge.completed }

section

variable (bridge : OuterBridge)

/-- `try_send` of a write to the writer of its source. -/
def sendWrite
    (write : MediaWrite) : Except MediaError OuterBridge :=
  match bridge.media.find? write.source with
  | none => .error .channelMissing
  | some index =>
      match bridge.writers[index]? with
      | none => .error .channelMissing
      | some writer =>
          if !writer.running then .error .writerStopped
          else if mediaWriterQueue ≤ writer.queue.length then
            .error .writerQueueFull
          else
            .ok { bridge with
              writers := bridge.writers.set index
                { writer with queue := writer.queue ++ [write] }
              written := write :: bridge.written }

/-- A complete body goes to the writer of its source, a raster body encoded
again. -/
def forward
    (media : BridgeMedia)
    (body : PendingBody)
    (outcome : Reorigination) : OuterBridge × Except MediaError Bool :=
  match bridge.sourceIds.find? media.source with
  | none => (bridge, .error .sourceMissing)
  | some upstream =>
      let write (bytes : List UInt8) : MediaWrite :=
        { deliveryId := media.deliveryId
          recordType := body.recordType
          objectId := upstream
          body := bytes
          delivery := body.delivery
          source := media.source
          assembled := body.bytes }
      if (bridge.sourceKinds.find? media.source).any
          BridgeSourceKind.isRaster then
        let frameId := (bridge.rasterFrameIds.find? media.source).getD 0 + 1
        if 2 ^ 64 ≤ frameId then (bridge, .error .frameIdsExhausted)
        else
          let bridge :=
            { bridge with
              reoriginated :=
                { delivery := body.delivery
                  deliveryId := media.deliveryId
                  source := media.source
                  recordType := body.recordType
                  body := body.bytes } :: bridge.reoriginated }
          match outcome with
          | .failed => (bridge, .error .reoriginationFailed)
          | .unusable =>
              ({ bridge with
                  rasterNeedsFull := media.source :: bridge.rasterNeedsFull
                  }.complete ⟨media.deliveryId, false, body.delivery⟩,
                .ok false)
          | .encoded bytes =>
              match bridge.sendWrite (write bytes) with
              | .error error => (bridge, .error error)
              | .ok sent =>
                  ({ sent with
                      rasterFrameIds :=
                        sent.rasterFrameIds.insert media.source frameId },
                    .ok true)
      else
        match bridge.sendWrite (write body.bytes) with
        | .error error => (bridge, .error error)
        | .ok sent => (sent, .ok true)

/-- A complete body of an image that the outer presenter has already. -/
def completeCached
    (media : BridgeMedia)
    (body : PendingBody) : OuterBridge × Except MediaError Bool :=
  if body.recordType ≠ .imageData ∨
      (bridge.sourceKinds.find? media.source).any
        BridgeSourceKind.isImage = false then
    (bridge, .error .notImage)
  else
    (bridge.complete ⟨media.deliveryId, true, body.delivery⟩, .ok true)

/-- A body with one more chunk. -/
def extend (body : PendingBody) (media : BridgeMedia) : PendingBody :=
  { body with
    received := body.received + media.bytes.length
    bytes := if body.cachedImage then body.bytes else body.bytes ++ media.bytes
    delivery := media.delivery }

/-- `media_chunk` -/
def mediaChunk
    (media : BridgeMedia)
    (outcome : Reorigination) : OuterBridge × Except MediaError Bool :=
  let begun := bridge.pendingBody media
  let body := extend begun media
  if begun.recordType ≠ media.recordType ∨ begun.total ≠ media.total ∨
      begun.received ≠ media.offset then
    (bridge.removePending media.source, .error .sequenceGap)
  else if body.total < body.received then
    (bridge.removePending media.source, .error .exceedsTotal)
  else if media.last then
    let bridge := bridge.removePending media.source
    if body.received ≠ body.total then (bridge, .error .incomplete)
    else if body.cachedImage then bridge.completeCached media body
    else bridge.forward media body outcome
  else
    ({ bridge with pending := bridge.pending.insert media.source body },
      .ok false)

/-! ## The sources -/

section

variable (sources : List BridgeSource)

/-- Audio sources whose video is among the keys are among them, too. -/
def addLinked
    (keys : List SourceKey) : List SourceKey :=
  keys ++ (sources.filter fun source =>
    match source.kind with
    | .audio _ (some video) => decide (video ∈ keys ∧ source.key ∉ keys)
    | _ => false).map BridgeSource.key

/-- The sources that a reconciliation creates again, or for the first time. -/
def recreated : List SourceKey :=
  (addLinked sources)^[sources.length]
    ((sources.filter fun source =>
      decide (bridge.sourceKinds.find? source.key ≠ some source.kind)).map
        BridgeSource.key)

/-- The outer sources that a reconciliation destroys. -/
def obsolete : List SourceKey :=
  bridge.sourceIds.keys.filter fun key =>
    decide (key ∉ sources.map BridgeSource.key ∨
      key ∈ bridge.recreated sources)

def removeObsolete : OuterBridge :=
  let gone := bridge.obsolete sources
  let requested := sources.map BridgeSource.key
  { bridge with
    media := bridge.media.filter fun key _ => decide (key ∉ gone)
    pending := bridge.pending.filter fun key _ => decide (key ∉ gone)
    rasterFrameIds :=
      bridge.rasterFrameIds.filter fun key _ => decide (key ∉ gone)
    rasterNeedsFull :=
      bridge.rasterNeedsFull.filter fun key => decide (key ∉ gone)
    cachedImages := bridge.cachedImages.filter fun key => decide (key ∉ gone)
    sourceIds := bridge.sourceIds.filter fun key _ =>
      decide (key ∉ gone ∨ key ∈ requested)
    sourceKinds := bridge.sourceKinds.filter fun key _ =>
      decide (key ∉ gone ∨ key ∈ requested) }

end

/-- The request for a source is written. -/
def requestSource
    (source : BridgeSource) : OuterBridge :=
  { bridge with
    nextSource := bridge.nextSource + 1
    sourceIds := bridge.sourceIds.insert source.key (bridge.nextSource + 1) }

end

/-- The outer presenter has the source. -/
def storeKind (bridge : OuterBridge) (source : BridgeSource) : OuterBridge :=
  { bridge with
    sourceKinds := bridge.sourceKinds.insert source.key source.kind }

/-- The source gets its writer, unless its image is cached. -/
def attachSource
    (cached : List SourceKey)
    (bridge : OuterBridge)
    (source : BridgeSource) : OuterBridge :=
  if source.kind.isImage && decide (source.key ∈ cached) then
    { bridge with cachedImages := source.key :: bridge.cachedImages }
  else
    { bridge with
      writers := bridge.writers ++ [⟨[], none, true, bridge.channel⟩]
      media := bridge.media.insert source.key bridge.writers.length
      cachedImages := bridge.cachedImages.filter fun key =>
        decide (key ≠ source.key)
      rasterFrameIds :=
        if source.kind.isRaster then bridge.rasterFrameIds.insert source.key 0
        else bridge.rasterFrameIds }

/-- The sources in the order of creation. -/
def creationOrder (sources : List BridgeSource) : List BridgeSource :=
  sources.mergeSort fun left right => decide (left.kind.rank ≤ right.kind.rank)

/-- How far a reconciliation came: so many sources were requested, so many are
known to the outer presenter, so many were attached, of which some are cached
images. -/
structure Progress where
  requested : Nat
  stored : Nat
  attached : Nat
  cached : List SourceKey

/-- `create_sources`, as far as it came. -/
def createSources
    (bridge : OuterBridge)
    (sources : List BridgeSource)
    (progress : Progress) : OuterBridge :=
  let bridge := (sources.take progress.requested).foldl requestSource bridge
  let bridge := (sources.take progress.stored).foldl storeKind bridge
  (sources.take progress.attached).foldl (attachSource progress.cached) bridge

/-- `reconcile`, as far as it came. -/
def reconcilePart
    (bridge : OuterBridge)
    (sources : List BridgeSource)
    (progress : Progress) : OuterBridge :=
  (bridge.removeObsolete sources).createSources
    (creationOrder (sources.filter fun source =>
      decide (source.key ∈ bridge.recreated sources))) progress

/-- `reconcile`, where nothing fails. -/
def reconcile
    (bridge : OuterBridge)
    (sources : List BridgeSource)
    (cached : List SourceKey) : OuterBridge :=
  { bridge.reconcilePart sources
      ⟨sources.length, sources.length, sources.length, cached⟩ with
    activeSources := sources }

/-- A new session with these sources takes the place of the old one. -/
def replaceSession
    (bridge : OuterBridge)
    (sources : List BridgeSource)
    (cached : List SourceKey) : OuterBridge :=
  (connect (bridge.channel + 1) bridge.writers bridge.reoriginated
    bridge.written bridge.completed).reconcile sources cached

/-- `take_source_losses`, given the sources that were lost. -/
def takeSourceLosses
    (bridge : OuterBridge)
    (losses : List SourceKey) : OuterBridge :=
  { bridge with
    media := bridge.media.filter fun key _ => decide (key ∉ losses)
    cachedImages := bridge.cachedImages.filter fun key =>
      decide (key ∉ losses)
    sourceKinds := bridge.sourceKinds.filter fun key _ =>
      decide (key ∉ losses) }

/-! ## `run_media_writer` -/

/-- A writer takes its next write. -/
def writerTakes (bridge : OuterBridge) (index : Nat) : Option OuterBridge :=
  match bridge.writers[index]? with
  | none => none
  | some writer =>
      match writer.queue with
      | [] => none
      | write :: rest =>
          if !writer.running || writer.current.isSome then none
          else
            some { bridge with
              writers := bridge.writers.set index
                { writer with queue := rest, current := some write } }

/-- A writer has written its current write, or could not, and says so to its
channel; it stops after a failure, or where nobody listens to the channel any
more. -/
def writerFinishes
    (bridge : OuterBridge)
    (index : Nat)
    (delivered : Bool) : Option OuterBridge :=
  match bridge.writers[index]? with
  | none => none
  | some writer =>
      if !writer.running then none
      else
        match writer.current with
        | none => none
        | some write =>
            let completion : MediaCompletion :=
              ⟨write.deliveryId, delivered, write.delivery⟩
            let listened := decide (writer.channel = bridge.channel)
            let finished :=
              { bridge with
                writers := bridge.writers.set index
                  { writer with
                    current := none
                    running := listened && delivered } }
            some (if listened then finished.complete completion else finished)

/-- A writer without work ends once its source has let it go. -/
def writerEnds (bridge : OuterBridge) (index : Nat) : Option OuterBridge :=
  match bridge.writers[index]? with
  | none => none
  | some writer =>
      if writer.queue.isEmpty && writer.current.isNone &&
          !bridge.media.entries.any (fun entry => decide (entry.2 = index)) then
        some { bridge with
          writers := bridge.writers.set index { writer with running := false } }
      else none

end OuterBridge

end Bridge
end Vvmux
