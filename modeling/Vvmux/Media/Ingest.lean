import Vvmux.Media.Credit
import Vvmux.Media.Raster

/-!
# Ingest of media records

A media record is paid for, checked against its source, retained if the source
is static, and forwarded to the bridge while the source is projected.  Its
credit goes back at once unless a delivery to the bridge is pending.
-/

namespace Vvmux
namespace Media

open Library

variable (protocol : Protocol)

/-- `validate_encoded_image`: what is looked up under the lock, followed by
what is checked without it. -/
def validateEncodedImage
    (state : State)
    (key : SourceKey)
    (record : MediaRecord) : Except String Unit :=
  match record.body with
  | .image body =>
      match state.sources.find? key with
      | none => .error "source no longer exists"
      | some source =>
          match source.descriptor with
          | .image config =>
              if record.length ≠ config.encodedLength.toNat then
                .error "image body count or length is invalid"
              else if config.sha256.any fun expected =>
                  expected != body.digest then
                .error "image hash mismatch"
              else if config.encoding ≠ .png ∧ config.encoding ≠ .jpeg then
                .error "unsupported image encoding"
              else
                match body.decode config.encoding with
                | none => .error "image decoder rejected body"
                | some size =>
                    if size ≠ (config.width, config.height) then
                      .error "decoded image dimensions mismatch"
                    else .ok ()
          | _ => .ok ()
  | _ => .ok ()

/-- What the bridge is sent of a record. -/
inductive ForwardBody where
  | record
  | canonical (frame : FullFrame)
deriving DecidableEq

/-- `MediaEvent`, with the body it stands for. -/
structure MediaEvent where
  deliveryId : Nat
  source : SourceKey
  sequence : Nat
  recoveredKeyframe : Option (Nat × Int)
  body : ForwardBody
deriving DecidableEq

/-- How `ingest_record` leaves the lock: with a rejected delta, or with a
record that may be pending as a delivery and may need a key frame. -/
inductive Ingested where
  | rejected (reason : FullFrameReason) (notify : Bool)
    (credit : DeliveryCredit)
  | accepted (event : Option MediaEvent) (requestKeyframe : Bool)

/-- What the first look at a record gives: the source afterwards, the body to
retain, and the key frame that ends a desynchronization. -/
structure Absorbed where
  source : Source
  retained : Option Retained
  recovered : Option (Nat × Int)

/-- A video packet is accepted by its source. -/
def absorbVideo
    (source : Source)
    (projected : Bool)
    (packet : VideoPacket)
    (sequence : MediaSequence) : Absorbed :=
  let accepted :=
    { source with
      sequence := sequence
      lastPtsUs := some packet.ptsUs
      lastMediaId := packet.packetId }
  if source.bridgeDesynchronized && decide (source.minimumEpoch ≤ packet.epoch)
      && packet.key then
    { source :=
        { accepted with
          bridgeDesynchronized := false
          pendingKeyframeReason := none }
      retained := none
      recovered := some (packet.epoch, packet.ptsUs) }
  else if !projected then
    { source := { accepted with bridgeDesynchronized := true }
      retained := none
      recovered := none }
  else { source := accepted, retained := none, recovered := none }

/-- The match on descriptor and record type in `ingest_record`. -/
def absorb
    (source : Source)
    (projected : Bool)
    (prepared : Option PreparedRaster)
    (record : MediaRecord) : Except String Absorbed :=
  match source.descriptor, record.body with
  | .raster _, .raster _ =>
      match prepared with
      | none => .error "raster preparation is missing"
      | some prepared =>
          .ok
            { source := source
              retained := some ⟨prepared.length, some prepared.frame⟩
              recovered := none }
  | .image config, .image _ =>
      if source.retained.isSome ∨
          record.length ≠ config.encodedLength.toNat then
        .error "image body count or length is invalid"
      else
        .ok
          { source := { source with lastMediaId := 1 }
            retained := some ⟨record.length, none⟩
            recovered := none }
  | .video config, .video parsed =>
      match parsed with
      | .error text => .error text
      | .ok packet =>
          if config.maxAccessUnitBytes < packet.dataLength then
            .error "video access unit exceeds source maximum"
          else
            match protocol.accept source.sequence packet.packetId
                packet.epoch with
            | .error text => .error text
            | .ok sequence =>
                .ok (absorbVideo source projected packet sequence)
  | .audio config, .audio parsed =>
      match parsed with
      | .error text => .error text
      | .ok packet =>
          if config.maxAccessUnitBytes < packet.dataLength then
            .error "audio access unit exceeds source maximum"
          else
            match protocol.accept source.sequence packet.packetId
                packet.epoch with
            | .error text => .error text
            | .ok sequence =>
                .ok
                  { source :=
                      { source with
                        sequence := sequence
                        lastPtsUs := some packet.ptsUs
                        lastMediaId := packet.packetId }
                    retained := none
                    recovered := none }
  | _, _ => .error "media record type does not match source"

/-- The record is a raster delta. -/
def MediaRecord.isDelta (record : MediaRecord) : Bool :=
  match record.body with
  | .raster (.delta _) => true
  | _ => false

/-- The body to forward, and its length: of a raster record the shorter of
the delta and the canonical frame, and else the record's own. -/
def forwardBody
    (prepared : Option PreparedRaster)
    (record : MediaRecord) : ForwardBody × Nat :=
  match prepared with
  | none => (.record, record.length)
  | some full =>
      if record.isDelta && decide (record.length < full.length) then
        (.record, record.length)
      else (.canonical full.frame, full.length)

/-- The record is a candidate for forwarding. -/
def forwards (source : Source) (projected : Bool) : Bool :=
  !source.descriptor.isImage && projected && !source.bridgeDesynchronized

/-- `forward_timed`: audio waits for the key frame of its video. -/
def forwardsTimed
    (state : State)
    (key : SourceKey)
    (source : Source)
    (candidate : Bool) : Bool :=
  candidate &&
    (match source.descriptor.linkedVideo with
      | none => true
      | some object =>
          match state.sources.find? ⟨key.producer, object⟩ with
          | none => true
          | some video => !video.bridgeDesynchronized)

/-- A video record that is a key frame. -/
def MediaRecord.isKey (record : MediaRecord) : Bool :=
  match record.body with
  | .video (.ok packet) => packet.key
  | _ => false

/-- The time stamp of the last record of a source. -/
def recordedPts
    (source : Source)
    (prepared : Option PreparedRaster) : Option Int :=
  match prepared with
  | none => source.lastPtsUs
  | some prepared => some prepared.frame.ptsUs

/-- The source takes over what was prepared for it. -/
def Source.settleRecord
    (source : Source)
    (projected : Bool)
    (prepared : Option PreparedRaster)
    (record : MediaRecord) : Source :=
  let sequenced :=
    match prepared with
    | none => source
    | some prepared =>
        { source with
          sequence := prepared.sequence
          lastMediaId := prepared.frame.frameId
          rasterRequiresFullReason := none
          rasterDamageWindowStarted := prepared.damageWindowStarted
          rasterDamagePixels := prepared.damagePixels }
  let decoded : List Milestone :=
    [.firstMediaRecord, .decoderInitialized, .firstDecodedOutput]
  { sequenced with
    lastPtsUs := recordedPts source prepared
    lastInnerRecordSequence := record.sequence
    milestones :=
      (if record.isKey then [.randomAccessAccepted] else []) ++
        (if projected then [.firstVisiblePresentation] else []) ++
          decoded ++ source.milestones }

/-- The source retains a body. -/
def Source.retain (source : Source) (retained : Option Retained) : Source :=
  match retained with
  | none => source
  | some body =>
      { source with
        retained := some body
        retainedBytes := body.length }

/-- The length of a body, and nothing where there is none. -/
def retainedLength (retained : Option Retained) : Nat :=
  (retained.map Retained.length).getD 0

/-- Replace some retained bytes by others in the aggregate. -/
def State.exchangeRetained (state : State) (old new : Nat) : State :=
  let released := state.releaseRetained old
  { released with retainedBytes := released.retainedBytes + new }

/-- Enter a delivery under the next number. -/
def State.enterDelivery
    (state : State)
    (delivery : Nat)
    (pending : PendingDelivery) : State :=
  { state with
    nextDeliveryId := delivery
    queuedBridgeBytes := state.queuedBridgeBytes + pending.queuedBytes
    deliveries := state.deliveries.insert delivery pending }

section

variable (state : State) (key : SourceKey) (record : MediaRecord)

/-- The delivery of a record that its source accepted: it is entered if the
record is forwarded and the bridge's queue has room. -/
def deliverRecord
    (source : Source)
    (forward : Bool)
    (body : ForwardBody × Nat)
    (recovered : Option (Nat × Int)) : State × Except String Ingested :=
  if forward && state.events && (decide (state.queuedBridgeBytes = 0) ||
      decide (state.queuedBridgeBytes + body.2 ≤
        state.config.ipcQueueBytes)) then
    match checkedAdd u64Max state.nextDeliveryId 1 with
    | none => (state, .error "bridge delivery IDs exhausted")
    | some delivery =>
        (state.enterDelivery delivery
            { source := key
              creditBytes := record.length
              queuedBytes := body.2
              serial := source.serial },
          .ok (.accepted
            (some
              { deliveryId := delivery
                source := key
                sequence := record.sequence
                recoveredKeyframe := recovered
                body := body.1 })
            false))
  else
    let dropped :=
      if forward && source.descriptor.isVideo then
        state.updateSource key fun source =>
          { source with bridgeDesynchronized := true }
      else state
    (returnCredit dropped key record.length,
      .ok (.accepted none (forward && source.descriptor.isVideo)))

/-- The part of `ingest_record` behind the raster preparation. -/
def ingestPrepared
    (source : Source)
    (prepared : Option PreparedRaster) : State × Except String Ingested :=
  let projected := state.isProjected key
  match absorb protocol source projected prepared record with
  | .error text => (state, .error text)
  | .ok absorbed =>
      let seen := state.updateSource key fun _ => absorbed.source
      let new := retainedLength absorbed.retained
      let forward := forwardsTimed seen key absorbed.source
        (forwards absorbed.source projected)
      let body := forwardBody prepared record
      let exchanged := seen.exchangeRetained source.retainedBytes new
      if state.config.aggregateRetainedBytes < exchanged.retainedBytes then
        ({ seen with saturated := exchanged.saturated },
          .error "aggregate retained media quota exceeded")
      else
        let settled :=
          (absorbed.source.settleRecord projected prepared record).retain
            absorbed.retained
        let kept := exchanged.updateSource key fun _ => settled
        let hydrated :=
          if settled.descriptor.isImage && decide (0 < new) &&
              decide (source.retainedBytes = 0) then
            advanceProjection kept
          else kept
        let told := advanceSource protocol hydrated key
          [.epoch, .milestones, .creditAccounting]
        match told.2 with
        | .error text => (told.1, .error text)
        | .ok _ =>
            deliverRecord told.1 key record settled forward body
              absorbed.recovered

/-- The preparation of a raster record; other records need none. -/
def preparation
    (source : Source)
    (record : MediaRecord)
    (now : Nat) : Option (Except String RasterPreparation) :=
  match source.descriptor, record.body with
  | .raster config, .raster body =>
      some (prepareRaster protocol source config body now)
  | _, _ => none

/-- `ingest_record` under the lock. -/
def ingestRecord
    (now : Nat) : State × Except String Ingested :=
  let paid := consumeSourceCredit state key record.length
  match paid.2 with
  | .error text => (paid.1, .error text)
  | .ok _ =>
      match paid.1.sources.find? key with
      | none => (paid.1, .error "source no longer exists")
      | some source =>
          match preparation protocol source record now with
          | none => ingestPrepared protocol paid.1 key record source none
          | some (.error text) => (paid.1, .error text)
          | some (.ok (.rejected reason notify)) =>
              let marked := paid.1.updateSource key fun source =>
                { source with rasterRequiresFullReason := some reason }
              let credit := prepareCreditWrite marked key record.length 1
              (credit.1, .ok (.rejected reason notify credit.2))
          | some (.ok (.accepted prepared)) =>
              ingestPrepared protocol paid.1 key record source (some prepared)

end

/-- `ingest_record` when the event queue does not take the delivery: its
credit goes back, and a video source needs a key frame. -/
def dropQueued
    (state : State)
    (key : SourceKey)
    (delivery : Nat) : State × Bool :=
  let released := takeDelivery state delivery
  match released.sources.find? key with
  | none => (released, false)
  | some source =>
      if source.descriptor.isVideo then
        (released.updateSource key fun source =>
          { source with bridgeDesynchronized := true }, true)
      else (released, false)

end Media
end Vvmux
