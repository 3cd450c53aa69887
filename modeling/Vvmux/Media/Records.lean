import Mathlib.Data.Prod.Lex
import Vvmux.Library.Bounded
import Vvmux.Library.OrderedMap

/-!
# Records of the virtual presenter

The data that producers and the virtual presenter exchange.  Bodies stand as
their parsers return them: a parser that fails gives its text, and a parser
whose result the presenter stores gives the parsed value.
-/

namespace Vvmux
namespace Media

open Library

abbrev ProducerId := Nat
abbrev PaneId := Nat

/-- A producer's object: `(ProducerId, u64)`. -/
structure ObjectKey where
  producer : ProducerId
  object : Nat

namespace ObjectKey

/-- Keys in the order of their components. -/
def toPair (key : ObjectKey) : Nat ×ₗ Nat :=
  toLex (key.producer, key.object)

theorem toPair_injective :
    Function.Injective toPair := by
  intro left right same
  have components := congrArg ofLex same
  cases left
  cases right
  simpa [toPair] using components

instance : LinearOrder ObjectKey :=
  LinearOrder.lift' toPair toPair_injective

/-- Named, so that every test for membership in a list of keys shares it. -/
instance : LawfulBEq ObjectKey := inferInstance

end ObjectKey

abbrev SourceKey := ObjectKey

/-! ## Media bodies -/

/-- RGBA bytes of a framebuffer. -/
abbrev Pixels := List UInt8

structure VideoPacket where
  packetId : Nat
  epoch : Nat
  ptsUs : Int
  key : Bool
  dataLength : Nat
deriving DecidableEq

structure AudioPacket where
  packetId : Nat
  epoch : Nat
  ptsUs : Int
  dataLength : Nat
deriving DecidableEq

/-- A full raster frame as its parser returns it, with what decoding its
pixels gives. -/
structure ParsedFullFrame where
  epoch : Nat
  frameId : Nat
  ptsUs : Int
  durationUs : Nat
  width : Nat
  height : Nat
  pixels : Except String Pixels

/-- A full raster frame with its decoded pixels. -/
structure FullFrame where
  epoch : Nat
  frameId : Nat
  ptsUs : Int
  durationUs : Nat
  width : Nat
  height : Nat
  pixels : Pixels
deriving DecidableEq

/-- One operation of a raster delta. -/
inductive DeltaOperation where
  | overwrite (x y width height : Nat) (rgba : List UInt8)
  | copy (destinationX destinationY width height sourceX sourceY : Nat)
deriving DecidableEq

structure DeltaFrame where
  epoch : Nat
  baseFrameId : Nat
  frameId : Nat
  ptsUs : Int
  durationUs : Nat
  operations : List DeltaOperation
deriving DecidableEq

/-- A raster body by the flag in its header. -/
inductive RasterBody where
  | truncated
  | full (parsed : Except String ParsedFullFrame)
  | delta (parsed : Except String DeltaFrame)

inductive ImageEncoding where
  | png
  | jpeg
  /-- Any other number. -/
  | other (code : Nat)
deriving DecidableEq

/-- What hashing and decoding an encoded image give. -/
structure ImageBody where
  digest : Nat
  decode : ImageEncoding → Option (Nat × Nat)

inductive MediaBody where
  | video (parsed : Except String VideoPacket)
  | audio (parsed : Except String AudioPacket)
  | raster (body : RasterBody)
  | image (body : ImageBody)
  | unknown

/-- A record of a media connection. -/
structure MediaRecord where
  sequence : Nat
  length : Nat
  body : MediaBody

/-! ## Source configurations -/

structure RasterConfig where
  sourceId : Nat
  width : Nat
  height : Nat
deriving DecidableEq

structure ImageConfig where
  sourceId : Nat
  width : Nat
  height : Nat
  encodedLength : UInt32
  encoding : ImageEncoding
  sha256 : Option Nat
deriving DecidableEq

structure VideoConfig where
  sourceId : Nat
  maxAccessUnitBytes : Nat
  codec : String
  packetization : String
deriving DecidableEq

structure AudioConfig where
  sourceId : Nat
  maxAccessUnitBytes : Nat
  codec : String
  linkedVideoSourceId : Option Nat
deriving DecidableEq

inductive SourceDescriptor where
  | raster (config : RasterConfig)
  | image (config : ImageConfig)
  | video (config : VideoConfig)
  | audio (config : AudioConfig)
deriving DecidableEq

/-- The kinds of media connections. -/
inductive ConnectionKind where
  | raster
  | blob
  | video
  | audio
deriving DecidableEq

namespace SourceDescriptor

/-- `kind` -/
def kind :
    SourceDescriptor → ConnectionKind
  | raster _ => .raster
  | image _ => .blob
  | video _ => .video
  | audio _ => .audio

def sourceId :
    SourceDescriptor → Nat
  | raster config => config.sourceId
  | image config => config.sourceId
  | video config => config.sourceId
  | audio config => config.sourceId

def isVideo :
    SourceDescriptor → Bool
  | video _ => true
  | _ => false

def isRaster :
    SourceDescriptor → Bool
  | raster _ => true
  | _ => false

def isImage :
    SourceDescriptor → Bool
  | image _ => true
  | _ => false

/-- `is_static` -/
def isStatic :
    SourceDescriptor → Bool
  | raster _ => true
  | image _ => true
  | _ => false

/-- `linked_video_source_id` of an audio source. -/
def linkedVideo :
    SourceDescriptor → Option Nat
  | audio config => config.linkedVideoSourceId
  | _ => none

/-- Video and audio: the sources that playback controls apply to. -/
def isTimed (descriptor : SourceDescriptor) : Bool :=
  !descriptor.isStatic

end SourceDescriptor

inductive RasterUpdateMode where
  | fullFrame
  | fullFrameAndDelta
deriving DecidableEq

structure RasterUpdateConfig where
  mode : RasterUpdateMode
  operationLimit : Nat
deriving DecidableEq

structure SemanticDescriptor where
  role : Nat
  title : String
  contentRevision : Nat
  semanticAvailability : Nat
  locator : String
deriving DecidableEq

structure PlayRequest where
  sourceId : Nat
  startPtsUs : Int
  minimumBufferUs : Nat := 0
  maximumLatencyUs : Nat := 0
  rate3232 : Nat := 0
  latePolicy : Nat := 0
  loopCount : Nat := 0
  startPolicy : Nat := 0
deriving DecidableEq

/-! ## Scene nodes -/

structure ClipRect where
  x : Int
  y : Int
  width : Int
  height : Int
deriving DecidableEq

/-- `ParsedSceneNode`; coordinates are 32.32 fixed point. -/
structure NodeConfig where
  nodeId : Nat
  contextId : Nat
  sourceId : Nat
  anchorId : Option Nat
  x : Int
  y : Int
  width : Int
  height : Int
  zIndex : Int
  clip : Option ClipRect
deriving DecidableEq

/-- An anchor marker as it is printed on a pane. -/
structure Marker where
  sessionTag : Nat
  anchorId : Nat
  proof : Nat
deriving DecidableEq

/-! ## Protocol vocabulary -/

inductive Feature where
  | observabilityCore
  | nodeClipRect
  | sourceCapturePolicy
  | sourceDescriptor
  | rasterDelta
  | imageCache
  | mediaOrderBarrier
deriving DecidableEq

inductive Observation where
  | sourceTransitions
  | sceneChanges
  | playbackTransitions
deriving DecidableEq

/-- The bits of `changed_fields`. -/
inductive SourceChange where
  | lifecycle
  | playback
  | milestones
  | epoch
  | creditAccounting
  | visibility
  | attachment
  | descriptor
  | capturePolicy
deriving DecidableEq

/-- The bits of `milestones`. -/
inductive Milestone where
  | mediaAttached
  | firstMediaRecord
  | decoderInitialized
  | firstDecodedOutput
  | firstVisiblePresentation
  | randomAccessAccepted
  | playbackStarted
  | playbackEnded
  | eosAccepted
  | sourceLost
deriving DecidableEq

/-- The bits of `reason_mask` of a scene event. -/
inductive SceneReason where
  | producerCommit
  | anchorGone
  | sourceLoss
deriving DecidableEq

inductive AttachmentState where
  | never
  | attached
  | closed
deriving DecidableEq

inductive KeyframeReason where
  | initial
  | decoderError
  | epochDiscontinuity
  | deviceReset
  | transportLoss
  /-- Any other number. -/
  | other (code : Nat)
deriving DecidableEq

inductive FullFrameReason where
  | baseUnavailable
  | damageBudget
  | other (code : Nat)
deriving DecidableEq

inductive WaitCondition where
  | sourceRevision
  | firstVisiblePresentation
  | rasterFrame
  | videoPts
  | playbackStarted
  | playbackEnded
  | mediaAttached
  | mediaClosed
  | sourceLost
  | other (code : Nat)
deriving DecidableEq

structure PendingSourceWait where
  sourceId : Nat
  condition : WaitCondition
  value : Option Nat
deriving DecidableEq

inductive ErrorCode where
  | unsupportedFeature
  | notFound
  | notVisible
  | badState
  | limitExceeded
  | preconditionFailed
  | cancelled
  | timeout
deriving DecidableEq

/-- `DisplayChanged`, as far as it decides whether it is usable. -/
structure Display where
  generation : Nat
  viewportWidth : Nat
  viewportHeight : Nat
  gridColumns : Nat
  gridRows : Nat
  cellWidth : Nat
  cellHeight : Nat
deriving DecidableEq

/-- `usable_display` -/
def Display.usable (display : Display) : Bool :=
  0 < display.viewportWidth && 0 < display.viewportHeight &&
    0 < display.gridColumns && 0 < display.gridRows &&
    0 < display.cellWidth && 0 < display.cellHeight

/-- `LimitsStatus`: the limits a producer is told and its usage. -/
structure LimitsStatus where
  maximumSources : Nat
  maximumNodes : Nat
  maximumTransactions : Nat
  maximumAnchors : Nat
  maximumControlBody : Nat
  maximumMediaBody : Nat
  maximumWaits : Nat
  maximumPendingRequests : Nat
  rollingByteWindow : Nat
  rollingPacketWindow : Nat
  retainedPixelBudget : Nat
  currentSources : Nat
  currentNodes : Nat
  currentRetainedPixels : Nat
deriving DecidableEq

inductive PlaybackPhase where
  | playing
  | ended
  | paused
deriving DecidableEq

/-- `PlaybackSnapshot`; its other counts are always zero. -/
structure PlaybackSnapshot where
  phase : PlaybackPhase
  clockPtsUs : Int
  epoch : Nat
  eosAccepted : Bool
deriving DecidableEq

inductive SourceLifecycle where
  | active
  | ended
  | created
  | paused
deriving DecidableEq

/-- A descriptor as it is reported: only its role where the capture policy
denies more. -/
inductive ReportedSourceDescriptor where
  | roleOnly (role : Nat)
  | full (descriptor : SemanticDescriptor)
deriving DecidableEq

/-- `SourceStatus`.  What it reports as decoded is reported as presented
too. -/
structure SourceStatus where
  sourceId : Nat
  sourceRevision : Nat
  kind : ConnectionKind
  lifecycle : SourceLifecycle
  epoch : Nat
  attachmentState : AttachmentState
  attachmentGeneration : Nat
  lastMediaId : Nat
  lastMediaSequence : Nat
  lastPtsUs : Option Int
  visible : Bool
  capturePolicy : Nat
  linkedSourceId : Nat
  milestones : List Milestone
  outstandingByteCredit : Nat
  outstandingPacketCredit : Nat
  ingressQueueDepth : Nat
  descriptor : Option ReportedSourceDescriptor
  playback : Option PlaybackSnapshot
deriving DecidableEq

/-- A record the presenter writes to a producer, or encodes for one. -/
inductive Reply where
  | ok (object request : Nat)
  | presented (request : Nat)
  | pong (request : Nat)
  | error (object request : Nat) (code : ErrorCode) (text : String)
  | support (request : Nat) (supported : Bool) (codec : String)
    (capabilityGeneration : Nat)
  | sourceStatus (request : Nat) (status : SourceStatus)
  | sceneStatus (request revision : Nat) (nodes : List NodeConfig)
    (next : Option Nat) (total : Nat)
  | anchorStatus (request anchor : Nat) (place : Option (Int × Nat))
    (visible : Bool) (displayGeneration : Nat)
  | limitsStatus (request : Nat) (limits : LimitsStatus)
  | waitSatisfied (request source revision : Nat) (condition : WaitCondition)
    (observed : Option Nat)
  | sourceReady (request source bytes packets : Nat)
    (deltaOperationLimit : Option Nat)
  | sourceChanged (source revision : Nat) (changed : List SourceChange)
    (sequence : Nat) (firstLost : Option Nat)
  | sceneChanged (revision : Nat) (reason : SceneReason) (sequence : Nat)
    (firstLost : Option Nat)
  | anchorReady (anchor : Nat)
  | displayChanged (display : Display)
  | capabilitiesChanged (generation : Nat)
  | playbackState (source revision sequence : Nat)
    (snapshot : PlaybackSnapshot)
  | needKeyframe (source epoch : Nat) (reason : KeyframeReason)
  | needFullFrame (source : Nat) (reason : FullFrameReason)
  | credit (source bytes packets : Nat)
deriving DecidableEq

/-! ## The protocol library -/

structure SceneValidationSource where
  key : ObjectKey
  isVideo : Bool
  linkedVideo : Option ObjectKey
deriving DecidableEq

structure SceneValidationNode where
  owner : ProducerId
  nodeId : Nat
  source : ObjectKey
  x : Int
  y : Int
  width : Int
  height : Int
  clip : Option ClipRect
deriving DecidableEq

/-- The media ids and epochs a sequence has accepted since it was new, the
latest first.  What `MediaSequence` keeps is a function of this history. -/
abbrev MediaSequence := List (Nat × Nat)

/-- The functions of `vivid_protocol` that the presenter calls, and the queue
of a producer's observations. -/
structure Protocol where
  /-- `advance` of the revision and sequence counters. -/
  advance : Nat → Option Nat
  /-- `MediaSequence::accept` -/
  acceptMedia : MediaSequence → Nat → Nat → Except String Unit
  /-- `MediaSequence::epoch` -/
  epoch : MediaSequence → Nat
  /-- Whether the server is built for Windows. -/
  windows : Bool
  /-- `HARD_MAX_RECORD_BODY` -/
  hardMaxRecordBody : UInt32
  /-- `CONTROL_MAX_RECORD_BODY` -/
  controlMaxRecordBody : Nat
  /-- `MAX_SCENE_NODES`: the most nodes a page of the scene holds. -/
  maxSceneNodes : Nat
  /-- `QUEUE_DEPTH_CAPACITY` -/
  queueDepthCapacity : Nat
  /-- `derive_key` of a token and a session tag. -/
  deriveKey : Nat → Nat → Nat
  /-- `verify_marker` -/
  verifyMarker : Nat → Marker → Bool
  /-- `rgba8_raw_frame_body_len` -/
  rasterFrameBodyLen : Nat → Nat → Except String UInt32
  /-- `raster_frame_body`: the length of the body it builds. -/
  rasterFrameBody : FullFrame → Except String Nat
  /-- `video_body_len` -/
  videoBodyLen : Nat → Except String UInt32
  /-- `audio_body_len` -/
  audioBodyLen : Nat → Except String UInt32
  /-- `is_portable_packetization` -/
  portablePacketization : String → String → Bool
  /-- `audio_config_supported` -/
  audioSupported : AudioConfig → Bool
  /-- `CAPTURE_POLICY_DENY_SEMANTIC_EXPORT` -/
  denySemanticExport : Nat
  /-- `CAPTURE_POLICY_DENY_POSTER_RETENTION` -/
  denyPosterRetention : Nat
  /-- `validate_capture_policy` -/
  validateCapturePolicy : Nat → Except String Unit
  /-- `validate_source_descriptor` -/
  validateSourceDescriptor : SemanticDescriptor → Except String Unit
  /-- `validate_scene_snapshot` -/
  validateScene : List SceneValidationSource → List SceneValidationNode →
    Except String Unit
  /-- Whether the encoder of a record accepts it. -/
  encode : Reply → Except String Unit
  /-- Whether a producer's observation queue takes the event with a sequence
  number, which `try_send` finds out. -/
  enqueues : ProducerId → Nat → Bool

/-- Accept a media id: the longer history, or the error text. -/
def Protocol.accept
    (protocol : Protocol)
    (sequence : MediaSequence)
    (mediaId epoch : Nat) : Except String MediaSequence :=
  match protocol.acceptMedia sequence mediaId epoch with
  | .ok _ => .ok ((mediaId, epoch) :: sequence)
  | .error text => .error text

/-- The protocol library as it answers well-formed input: counters step by
one, media ids increase, and no encoder fails.  Whether an observation queue
has room is left open. -/
def wellFormedProtocol (enqueues : ProducerId → Nat → Bool) : Protocol where
  advance counter := checkedAdd u64Max counter 1
  acceptMedia sequence mediaId epoch :=
    match sequence with
    | [] => .ok ()
    | (latest, current) :: _ =>
        if latest < mediaId ∧ current ≤ epoch then .ok ()
        else .error "media sequence is invalid"
  epoch sequence := (sequence.head?.map Prod.snd).getD 0
  windows := false
  hardMaxRecordBody := 67108864
  controlMaxRecordBody := 1048576
  maxSceneNodes := 256
  queueDepthCapacity := 64
  deriveKey token tag := token + tag
  verifyMarker key marker := key == marker.proof
  rasterFrameBodyLen width height := .ok (UInt32.ofNat (width * height * 4 + 48))
  rasterFrameBody frame := .ok (frame.width * frame.height * 4 + 48)
  videoBodyLen bytes := .ok (UInt32.ofNat (bytes + 40))
  audioBodyLen bytes := .ok (UInt32.ofNat (bytes + 40))
  portablePacketization _ _ := true
  audioSupported _ := true
  denySemanticExport := 2
  denyPosterRetention := 4
  validateCapturePolicy _ := .ok ()
  validateSourceDescriptor _ := .ok ()
  validateScene _ _ := .ok ()
  encode _ := .ok ()
  enqueues := enqueues

end Media
end Vvmux
