import Vvmux.Media.Presenter

/-!
# What a step can do to the state

Every step of the presenter is a sequence of elementary changes of the shared
state, behind at most one deed that only some steps do.  An invariant is
proved once for each elementary change and each deed.
-/

namespace Vvmux
namespace Media

open Library

/-! ## Quiet changes -/

/-- A source that keeps what it is, what it retains, its credit, its end and
its attachments. -/
structure Source.Quiet (before after : Source) : Prop where
  serial : after.serial = before.serial
  owner : after.owner = before.owner
  descriptor : after.descriptor = before.descriptor
  retained : after.retained = before.retained
  retainedBytes : after.retainedBytes = before.retainedBytes
  ended : after.ended = before.ended
  eosEpoch : after.eosEpoch = before.eosEpoch
  attachmentGeneration :
    after.attachmentGeneration = before.attachmentGeneration
  windowBytes : after.creditWindowBytes = before.creditWindowBytes
  windowPackets : after.creditWindowPackets = before.creditWindowPackets
  outstandingBytes :
    after.outstandingByteCredit = before.outstandingByteCredit
  outstandingPackets :
    after.outstandingPacketCredit = before.outstandingPacketCredit
  chargedBytes : after.chargedBytes = before.chargedBytes
  chargedPackets : after.chargedPackets = before.chargedPackets
  rasterUpdate : after.rasterUpdate = before.rasterUpdate
  flushEpoch : after.flushEpoch = before.flushEpoch
  attachedWith : after.attachedWith = before.attachedWith

/-- A producer that keeps what it is and its anchors, and gets no wait. -/
structure Producer.Quiet (before after : Producer) : Prop where
  pane : after.pane = before.pane
  anchors : after.anchors = before.anchors
  seenAnchors : after.seenAnchors = before.seenAnchors
  waits : ∀ request wait, after.waits.find? request = some wait →
    before.waits.find? request = some wait

/-- Nothing changes in the tables but quiet changes of their sources and
producers. -/
structure Quiet (before after : State) : Prop where
  config : after.config = before.config
  metrics : after.metrics = before.metrics
  producers : before.producers.Related Producer.Quiet after.producers
  sources : before.sources.Related Source.Quiet after.sources
  nodes : after.nodes = before.nodes
  transactions : after.transactions = before.transactions
  tickets : after.tickets = before.tickets
  nextProducer : after.nextProducer = before.nextProducer
  retainedBytes : after.retainedBytes = before.retainedBytes
  deliveries : after.deliveries = before.deliveries
  nextDeliveryId : after.nextDeliveryId = before.nextDeliveryId
  queuedBridgeBytes : after.queuedBridgeBytes = before.queuedBridgeBytes
  created : after.created = before.created
  returned : after.returned = before.returned
  saturated : after.saturated = before.saturated
  admitted : after.admitted = before.admitted
  revoked : after.revoked = before.revoked

theorem Source.Quiet.refl (source : Source) : source.Quiet source := by
  constructor <;> rfl

theorem Source.Quiet.trans
    {first second third : Source}
    (before : first.Quiet second)
    (after : second.Quiet third) : first.Quiet third where
  serial := after.serial.trans before.serial
  owner := after.owner.trans before.owner
  descriptor := after.descriptor.trans before.descriptor
  retained := after.retained.trans before.retained
  retainedBytes := after.retainedBytes.trans before.retainedBytes
  ended := after.ended.trans before.ended
  eosEpoch := after.eosEpoch.trans before.eosEpoch
  attachmentGeneration :=
    after.attachmentGeneration.trans before.attachmentGeneration
  windowBytes := after.windowBytes.trans before.windowBytes
  windowPackets := after.windowPackets.trans before.windowPackets
  outstandingBytes := after.outstandingBytes.trans before.outstandingBytes
  outstandingPackets :=
    after.outstandingPackets.trans before.outstandingPackets
  chargedBytes := after.chargedBytes.trans before.chargedBytes
  chargedPackets := after.chargedPackets.trans before.chargedPackets
  rasterUpdate := after.rasterUpdate.trans before.rasterUpdate
  flushEpoch := after.flushEpoch.trans before.flushEpoch
  attachedWith := after.attachedWith.trans before.attachedWith

theorem Producer.Quiet.refl (producer : Producer) : producer.Quiet producer :=
  ⟨rfl, rfl, rfl, fun _ _ found => found⟩

theorem Producer.Quiet.trans
    {first second third : Producer}
    (before : first.Quiet second)
    (after : second.Quiet third) : first.Quiet third where
  pane := after.pane.trans before.pane
  anchors := after.anchors.trans before.anchors
  seenAnchors := after.seenAnchors.trans before.seenAnchors
  waits := by
    intro request wait found
    exact before.waits request wait (after.waits request wait found)

theorem Quiet.refl (state : State) : Quiet state state := by
  constructor
  case producers => exact .refl Producer.Quiet.refl _
  case sources => exact .refl Source.Quiet.refl _
  all_goals rfl

theorem Quiet.trans
    {first second third : State}
    (before : Quiet first second)
    (after : Quiet second third) : Quiet first third where
  config := after.config.trans before.config
  metrics := after.metrics.trans before.metrics
  producers := before.producers.trans
    (fun _ _ _ => Producer.Quiet.trans) after.producers
  sources := before.sources.trans
    (fun _ _ _ => Source.Quiet.trans) after.sources
  nodes := after.nodes.trans before.nodes
  transactions := after.transactions.trans before.transactions
  tickets := after.tickets.trans before.tickets
  nextProducer := after.nextProducer.trans before.nextProducer
  retainedBytes := after.retainedBytes.trans before.retainedBytes
  deliveries := after.deliveries.trans before.deliveries
  nextDeliveryId := after.nextDeliveryId.trans before.nextDeliveryId
  queuedBridgeBytes := after.queuedBridgeBytes.trans before.queuedBridgeBytes
  created := after.created.trans before.created
  returned := after.returned.trans before.returned
  saturated := after.saturated.trans before.saturated
  admitted := after.admitted.trans before.admitted
  revoked := after.revoked.trans before.revoked

variable {before after : State} (state : State)

/-- A notification is quiet. -/
theorem Notified.quiet
    (notified : Notified before after) : Quiet before after := by
  have others := notified.others
  constructor
  case producers =>
    exact notified.producers.weaken fun _ _ told =>
      { told with }
  case sources =>
    refine notified.sources.weaken fun one two revised => ?_
    unfold Source.Revised at revised
    constructor <;> rw [revised]
  all_goals rw [others]

variable (key : SourceKey) (change : Source → Source)

/-- Rewriting a source quietly. -/
theorem quiet_updateSource
    (quiet : ∀ source, state.sources.find? key = some source →
      source.Quiet (change source)) :
    Quiet state (state.updateSource key change) :=
  { Quiet.refl state with
    sources := OrderedMap.related_modify Source.Quiet.refl _ _ _ quiet }

/-- Rewriting a producer quietly. -/
theorem quiet_updateProducer
    (producerId : ProducerId)
    (change : Producer → Producer)
    (quiet : ∀ producer : Producer, producer.Quiet (change producer)) :
    Quiet state (state.updateProducer producerId change) :=
  { Quiet.refl state with
    producers := OrderedMap.related_modify Producer.Quiet.refl _ _ _
      fun producer _ => quiet producer }

theorem quiet_write
    (producer : ProducerId)
    (reply : Reply) : Quiet state (state.write producer reply) :=
  (notified_write state producer reply).quiet

theorem quiet_writeIfConnected
    (producer : ProducerId)
    (reply : Reply) : Quiet state (state.writeIfConnected producer reply) :=
  (notified_writeIfConnected state producer reply).quiet

theorem quiet_advanceProjection
    (state : State) : Quiet state (advanceProjection state) :=
  (notified_advanceProjection state).quiet

/-- An image that is kept for the first time is projected anew. -/
theorem quiet_hydrated
    (state : State)
    (hydrates : Bool) :
    Quiet state
      (if hydrates = true then advanceProjection state else state) := by
  split
  · exact quiet_advanceProjection state
  · exact .refl state

variable (protocol : Protocol)

theorem quiet_advanceSource
    (state : State)
    (key : SourceKey)
    (changed : List SourceChange) :
    Quiet state (advanceSource protocol state key changed).1 :=
  (notified_advanceSource protocol state key changed).quiet

theorem quiet_advanceScene
    (state : State)
    (producer : ProducerId)
    (reason : SceneReason) :
    Quiet state (advanceScene protocol state producer reason).1 :=
  (notified_advanceScene protocol state producer reason).quiet

/-- What quiet steps over a list preserve. -/
theorem quiet_foldl
    {α : Type}
    (step : State → α → State)
    (quiet : ∀ state element, Quiet state (step state element))
    (elements : List α)
    (state : State) : Quiet state (elements.foldl step state) := by
  induction elements generalizing state with
  | nil => exact Quiet.refl state
  | cons element rest ih =>
      exact (quiet state element).trans (ih _)

/-! ## Sources that evolve -/

/-- The retained frame is kept, and the need for a full frame stays. -/
structure Source.RasterKept (before after : Source) : Prop where
  serial : after.serial = before.serial
  descriptor : after.descriptor = before.descriptor
  retained : before.descriptor.isStatic = true →
    after.retained = before.retained
  latched : before.rasterRequiresFullReason.isSome = true →
    after.rasterRequiresFullReason.isSome = true

/-- The key frame that is waited for stays the same, and so does the
desynchronization. -/
structure Source.KeyframeKept (before after : Source) : Prop where
  serial : after.serial = before.serial
  descriptor : after.descriptor = before.descriptor
  minimumEpoch : after.minimumEpoch = before.minimumEpoch
  pending : after.pendingKeyframeReason = before.pendingKeyframeReason
  desynchronized : before.bridgeDesynchronized = true →
    after.bridgeDesynchronized = true

/-- Besides, no packet is accepted. -/
structure Source.Drifts (before after : Source) : Prop where
  sequence : after.sequence = before.sequence
  raster : before.RasterKept after
  keyframe : before.KeyframeKept after

/-- Every source evolved from one under the same key. -/
def Evolves (relation : Source → Source → Prop) (before after : State) : Prop :=
  ∀ key source, after.sources.find? key = some source →
    ∃ old, before.sources.find? key = some old ∧ relation old source

/-- The sources drift. -/
abbrev Drifts : State → State → Prop :=
  Evolves Source.Drifts

theorem Source.RasterKept.refl (source : Source) : source.RasterKept source :=
  ⟨rfl, rfl, fun _ => rfl, id⟩

section

variable {first second third : Source}

theorem Source.RasterKept.trans
    (before : first.RasterKept second)
    (after : second.RasterKept third) : first.RasterKept third where
  serial := after.serial.trans before.serial
  descriptor := after.descriptor.trans before.descriptor
  retained static := by
    rw [after.retained (by rw [before.descriptor]; exact static),
      before.retained static]
  latched latch := after.latched (before.latched latch)

theorem Source.KeyframeKept.refl
    (source : Source) : source.KeyframeKept source :=
  ⟨rfl, rfl, rfl, rfl, id⟩

theorem Source.KeyframeKept.trans
    (before : first.KeyframeKept second)
    (after : second.KeyframeKept third) : first.KeyframeKept third where
  serial := after.serial.trans before.serial
  descriptor := after.descriptor.trans before.descriptor
  minimumEpoch := after.minimumEpoch.trans before.minimumEpoch
  pending := after.pending.trans before.pending
  desynchronized lost := after.desynchronized (before.desynchronized lost)

theorem Source.Drifts.refl (source : Source) : source.Drifts source :=
  ⟨rfl, .refl source, .refl source⟩

theorem Source.Drifts.trans
    (before : first.Drifts second)
    (after : second.Drifts third) : first.Drifts third :=
  ⟨after.sequence.trans before.sequence, before.raster.trans after.raster,
    before.keyframe.trans after.keyframe⟩

end

/-- A source of which only fields without a part in its media differ. -/
theorem Source.drifts_of_eq
    {before after : Source}
    (serial : after.serial = before.serial)
    (descriptor : after.descriptor = before.descriptor)
    (sequence : after.sequence = before.sequence)
    (retained : after.retained = before.retained)
    (latch : after.rasterRequiresFullReason =
      before.rasterRequiresFullReason)
    (minimumEpoch : after.minimumEpoch = before.minimumEpoch)
    (pending : after.pendingKeyframeReason = before.pendingKeyframeReason)
    (desynchronized : before.bridgeDesynchronized = true →
      after.bridgeDesynchronized = true) :
    before.Drifts after where
  sequence := sequence
  raster := ⟨serial, descriptor, fun _ => retained, by rw [latch]; exact id⟩
  keyframe := ⟨serial, descriptor, minimumEpoch, pending, desynchronized⟩

theorem Evolves.weaken
    {strong weak : Source → Source → Prop}
    (evolves : Evolves strong before after)
    (implies : ∀ one two, strong one two → weak one two) :
    Evolves weak before after := by
  intro key source found
  obtain ⟨old, there, related⟩ := evolves key source found
  exact ⟨old, there, implies old source related⟩

variable {relation : Source → Source → Prop}

theorem Evolves.compose
    {first second third : State}
    (transitive : ∀ one two three, relation one two → relation two three →
      relation one three)
    (before : Evolves relation first second)
    (after : Evolves relation second third) : Evolves relation first third := by
  intro key source found
  obtain ⟨middle, there, later⟩ := after key source found
  obtain ⟨old, first, earlier⟩ := before key middle there
  exact ⟨old, first, transitive old middle source earlier later⟩

/-- The relation holds between a source and what a rewriting makes of it. -/
theorem evolves_updateSource
    (reflexive : ∀ source, relation source source)
    (state : State)
    (key : SourceKey)
    (change : Source → Source)
    (related : ∀ source, state.sources.find? key = some source →
      relation source (change source)) :
    Evolves relation state (state.updateSource key change) := by
  intro other source found
  simp only [State.updateSource, OrderedMap.find?_modify] at found
  split at found
  · rename_i same
    subst same
    obtain ⟨old, there, rfl⟩ := Option.map_eq_some_iff.mp found
    exact ⟨old, there, related old there⟩
  · exact ⟨source, found, reflexive source⟩

theorem Evolves.trans
    {first second third : State}
    (before : Drifts first second)
    (after : Drifts second third) : Drifts first third :=
  before.compose (fun _ _ _ => Source.Drifts.trans) after

/-- The table of sources stays as it is. -/
theorem drifts_of_eq
    (same : after.sources = before.sources) : Drifts before after := by
  intro key source found
  rw [same] at found
  exact ⟨source, found, .refl source⟩

theorem drifts_refl (state : State) : Drifts state state :=
  drifts_of_eq rfl

theorem drifts_updateSource
    (state : State)
    (key : SourceKey)
    (change : Source → Source)
    (drifts : ∀ source : Source, source.Drifts (change source)) :
    Drifts state (state.updateSource key change) :=
  evolves_updateSource Source.Drifts.refl state key change
    fun source _ => drifts source

theorem Notified.drifts
    (notified : Notified before after) : Drifts before after := by
  intro key source found
  obtain ⟨old, there, revised⟩ := notified.sources.exists_before found
  refine ⟨old, there, ?_⟩
  unfold Source.Revised at revised
  rw [revised]
  exact Source.drifts_of_eq rfl rfl rfl rfl rfl rfl rfl id

/-! ## Mild changes -/

/-- A quiet change under which the sources drift. -/
structure Mild (before after : State) : Prop where
  quiet : Quiet before after
  drifts : Drifts before after

theorem Mild.refl (state : State) : Mild state state :=
  ⟨.refl state, drifts_refl state⟩

theorem Mild.trans
    {first second third : State}
    (before : Mild first second)
    (after : Mild second third) : Mild first third :=
  ⟨before.quiet.trans after.quiet, before.drifts.trans after.drifts⟩

theorem Notified.mild (notified : Notified before after) : Mild before after :=
  ⟨notified.quiet, notified.drifts⟩

theorem mild_updateSource
    (quiet : ∀ source : Source, source.Quiet (change source))
    (drifts : ∀ source : Source, source.Drifts (change source)) :
    Mild state (state.updateSource key change) :=
  ⟨quiet_updateSource state key change fun source _ => quiet source,
    drifts_updateSource state key change drifts⟩

theorem mild_advanceSource
    (state : State)
    (key : SourceKey)
    (changed : List SourceChange) :
    Mild state (advanceSource protocol state key changed).1 :=
  (notified_advanceSource protocol state key changed).mild

theorem mild_advanceProjection
    (state : State) : Mild state (advanceProjection state) :=
  (notified_advanceProjection state).mild

/-! ## Elementary changes -/

/-- A node that at most retains its anchor elsewhere. -/
structure SceneNode.Placed (before after : SceneNode) : Prop where
  producer : after.producer = before.producer
  pane : after.pane = before.pane
  config : after.config = before.config

/-- A producer whose anchors at most moved or went. -/
structure Producer.Unanchored (before after : Producer) : Prop where
  pane : after.pane = before.pane
  anchors : ∀ anchor, anchor ∈ after.anchors → anchor ∈ before.anchors
  seenAnchors : after.seenAnchors = before.seenAnchors
  waits : after.waits = before.waits

/-- The node a mutation puts into the scene. -/
def Mutation.node? :
    Mutation → Option SceneNode
  | .create node => some node
  | .update node => some node
  | .delete _ _ => none

/-- Only the credit of a source differs. -/
def Source.OnlyCredit (before after : Source) : Prop :=
  after = { before with
    outstandingByteCredit := after.outstandingByteCredit
    outstandingPacketCredit := after.outstandingPacketCredit
    chargedBytes := after.chargedBytes
    chargedPackets := after.chargedPackets }

/-- Charge a record of one packet to a source. -/
def Source.charge (source : Source) (bytes : Nat) : Source :=
  { source.pay bytes with
    chargedBytes := source.chargedBytes + bytes
    chargedPackets := source.chargedPackets + 1 }

/-- Give a source the credit of a record back. -/
def Source.settle (source : Source) (projected : Bool) (bytes : Nat) : Source :=
  let refunded := source.refund bytes 1
  if projected then refunded.grant refunded.topUp else refunded

/-- A node of a committed scene was there before, or is put there by a
mutation of the transaction and shows a source of its producer. -/
def Commits
    (state : State)
    (producerId : ProducerId)
    (mutations : List Mutation)
    (nodes : Nodes) : Prop :=
  ∀ key node, nodes.find? key = some node →
    state.nodes.find? key = some node ∨
      (key = ⟨producerId, node.config.nodeId⟩ ∧
        node.producer = producerId ∧ node.source ∈ state.sources ∧
        ∃ mutation ∈ mutations, mutation.node? = some node)

/-- The elementary changes of the shared state. -/
inductive Change : State → State → Prop
  | quiet {before after : State} :
      Quiet before after → Change before after
  /-- A record is paid for. -/
  | charge (state : State) (key : SourceKey) (source : Source) (bytes : Nat) :
      state.sources.find? key = some source →
      source.affords bytes = true →
      Change state (state.updateSource key fun source => source.charge bytes)
  /-- The counts of charged credit are exhausted. -/
  | overflow (state : State) (key : SourceKey) (source after : Source)
      (bytes : Nat) :
      state.sources.find? key = some source →
      source.affords bytes = true →
      u64Max < source.chargedBytes + bytes ∨
        u64Max < source.chargedPackets + 1 →
      source.OnlyCredit after →
      Change state (state.updateSource key fun _ => after)
  /-- The credit of a record goes back. -/
  | settle (state : State) (key : SourceKey) (source : Source)
      (projected : Bool) (bytes : Nat) :
      state.sources.find? key = some source →
      bytes ≤ source.chargedBytes → 1 ≤ source.chargedPackets →
      Change state
        (state.updateSource key fun source => source.settle projected bytes)
  | dropDelivery (state : State) (delivery : Nat)
      (pending : PendingDelivery) :
      state.deliveries.find? delivery = some pending →
      Change state (state.dropDelivery delivery pending)
  | enterDelivery (state : State) (pending : PendingDelivery)
      (source : Source) :
      state.sources.find? pending.source = some source →
      pending.serial = source.serial →
      Change state (state.enterDelivery (state.nextDeliveryId + 1) pending)
  /-- A static source retains a body within the aggregate limit. -/
  | retain (state : State) (key : SourceKey) (source : Source)
      (body : Retained) :
      state.sources.find? key = some source →
      source.descriptor.isStatic = true →
      state.retainedBytes - source.retainedBytes + body.length ≤
        state.config.aggregateRetainedBytes →
      Change state
        ((state.exchangeRetained source.retainedBytes
          body.length).updateSource key fun source =>
            source.retain (some body))
  /-- A timed source retains nothing. -/
  | retainNothing (state : State) (key : SourceKey) (source : Source) :
      state.sources.find? key = some source →
      source.descriptor.isTimed = true →
      Change state (state.exchangeRetained source.retainedBytes 0)
  /-- The bytes of a source are taken off to see whether a body fits. -/
  | tryRetain (state : State) (key : SourceKey) (source : Source) :
      state.sources.find? key = some source →
      Change state
        { state with
          saturated := (state.releaseRetained source.retainedBytes).saturated }
  | filterNodes (state : State) (keep : ObjectKey → SceneNode → Bool) :
      Change state { state with nodes := state.nodes.filter keep }
  | placeNodes (state : State) (nodes : Nodes) :
      state.nodes.Related SceneNode.Placed nodes →
      Change state { state with nodes := nodes }
  | commit (state : State) (key : ObjectKey) (mutations : List Mutation)
      (nodes : Nodes) :
      state.transactions.find? key = some mutations →
      Commits state key.producer mutations nodes →
      nodes.size ≤ state.config.maxNodes →
      Change state
        { state with
          transactions := state.transactions.erase key
          nodes := nodes }
  | pruneSource (state : State) (key : SourceKey) (source : Source) :
      state.sources.find? key = some source →
      state.orphaned key = true →
      Change state (state.dropSource key source)
  | dropProducer (state : State) (producerId : ProducerId) :
      Change state (state.dropProducer producerId)
  | closeTransaction (state : State) (key : ObjectKey) :
      Change state { state with transactions := state.transactions.erase key }
  | bufferMutation (state : State) (key : ObjectKey) (mutation : Mutation) :
      (∀ node, mutation.node? = some node →
        node.producer = key.producer ∧
          ∃ producer, state.producers.find? key.producer = some producer ∧
            node.pane = producer.pane) →
      Change state (state.bufferMutation key mutation)
  | registerWait (state : State) (producerId : ProducerId)
      (producer : Producer) (request : Nat) (wait : PendingSourceWait) :
      state.producers.find? producerId = some producer →
      producer.waits.size < maxRegisteredWaits →
      Change state
        (state.updateProducer producerId fun producer =>
          { producer with waits := producer.waits.insert request wait })
  | placeAnchors (state : State)
      (producers : OrderedMap ProducerId Producer) :
      state.producers.Related Producer.Unanchored producers →
      Change state { state with producers := producers }
  | numberProducer (state : State) :
      Change state { state with nextProducer := state.nextProducer + 1 }
  | enterProducer (state : State) (producer : Producer) (display : Display) :
      state.metrics.find? producer.pane = some display →
      producer.anchors = .empty → producer.seenAnchors = [] →
      producer.waits = .empty →
      Change state
        ({ state with nextProducer := state.nextProducer + 1 }.enterProducer
          (state.nextProducer + 1) producer)
  /-- A pane is given up once nothing of it is left. -/
  | forgetPane (state : State) (pane : PaneId) :
      (∀ producerId producer, state.producers.find? producerId =
        some producer → producer.pane ≠ pane) →
      (∀ key node, state.nodes.find? key = some node → node.pane ≠ pane) →
      (∀ key, key ∈ state.sources → state.orphaned key = false) →
      Change state (state.forgetPane pane)

/-- A sequence of elementary changes. -/
abbrev Changes : State → State → Prop :=
  Relation.ReflTransGen Change

theorem Quiet.changes (quiet : Quiet before after) : Changes before after :=
  .single (.quiet quiet)

/-- What is preserved by every elementary change is preserved by their
sequences. -/
theorem Changes.preserve
    {invariant : State → Prop}
    (preserved : ∀ before after, invariant before → Change before after →
      invariant after)
    {before after : State}
    (holds : invariant before)
    (changes : Changes before after) : invariant after := by
  induction changes with
  | refl => exact holds
  | tail _ change ih =>
      exact preserved _ _ ih change

/-- Changes along a list. -/
theorem changes_foldl
    {α : Type}
    (step : State → α → State)
    (changes : ∀ state element, Changes state (step state element))
    (elements : List α)
    (state : State) : Changes state (elements.foldl step state) := by
  induction elements generalizing state with
  | nil => exact .refl
  | cons element rest ih =>
      exact (changes state element).trans (ih _)

/-! ## What changes do to the tables -/

/-- A source whose identity, end and attachments stay as they are. -/
structure Source.Steady (before after : Source) : Prop where
  serial : after.serial = before.serial
  descriptor : after.descriptor = before.descriptor
  ended : after.ended = before.ended
  eosEpoch : after.eosEpoch = before.eosEpoch
  rasterUpdate : after.rasterUpdate = before.rasterUpdate
  flushEpoch : after.flushEpoch = before.flushEpoch
  attachedWith : after.attachedWith = before.attachedWith

theorem Source.Steady.refl (source : Source) : source.Steady source :=
  ⟨rfl, rfl, rfl, rfl, rfl, rfl, rfl⟩

theorem Source.Quiet.steady
    {before after : Source}
    (quiet : before.Quiet after) : before.Steady after :=
  { quiet with }

theorem steady_settle
    (source : Source)
    (projected : Bool)
    (bytes : Nat) : source.Steady (source.settle projected bytes) := by
  unfold Source.settle
  simp only
  split
  · exact ⟨rfl, rfl, rfl, rfl, rfl, rfl, rfl⟩
  · exact ⟨rfl, rfl, rfl, rfl, rfl, rfl, rfl⟩

/-- The sources of one state are, as far as they are still there, steady
versions of those of another, and only orphans go. -/
structure SourcesKept (before after : State) : Prop where
  origin : ∀ key source, after.sources.find? key = some source →
    ∃ old, before.sources.find? key = some old ∧ old.Steady source
  stays : ∀ key, key ∈ before.sources → before.orphaned key = false →
    key ∈ after.sources

/-- Sources that are rewritten all stay. -/
theorem sourcesKept_of_related
    (related : before.sources.Related Source.Steady after.sources) :
    SourcesKept before after where
  origin := fun _ _ found => related.exists_before found
  stays := fun key present _ => (related.mem_iff key).mpr present

theorem sourcesKept_updateSource
    (steady : ∀ source, state.sources.find? key = some source →
      source.Steady (change source)) :
    SourcesKept state (state.updateSource key change) :=
  sourcesKept_of_related
    (OrderedMap.related_modify Source.Steady.refl _ _ _ steady)

theorem sourcesKept_of_eq
    (same : after.sources = before.sources) : SourcesKept before after := by
  apply sourcesKept_of_related
  rw [same]
  exact .refl Source.Steady.refl _

/-- A change creates no source and takes only orphans away. -/
theorem Change.sourcesKept
    (change : Change before after) : SourcesKept before after := by
  cases change with
  | quiet quiet =>
      exact sourcesKept_of_related
        (quiet.sources.weaken fun _ _ same => same.steady)
  | charge key source bytes found affords =>
      exact sourcesKept_updateSource _ _ _ fun _ _ =>
        ⟨rfl, rfl, rfl, rfl, rfl, rfl, rfl⟩
  | overflow key source after bytes found affords beyond only =>
      apply sourcesKept_updateSource
      intro current here
      rw [found] at here
      rw [← Option.some.inj here, only]
      exact ⟨rfl, rfl, rfl, rfl, rfl, rfl, rfl⟩
  | settle key source projected bytes found enough packets =>
      exact sourcesKept_updateSource _ _ _ fun source _ =>
        steady_settle source projected bytes
  | retain key source body found static room =>
      have kept := sourcesKept_updateSource before key
        (fun source => source.retain (some body))
        fun _ _ => ⟨rfl, rfl, rfl, rfl, rfl, rfl, rfl⟩
      exact ⟨kept.origin, kept.stays⟩
  | pruneSource key source found orphaned =>
      constructor
      case origin =>
        intro query other there
        simp only [State.dropSource, State.releaseRetained,
          OrderedMap.find?_erase] at there
        split at there
        · cases there
        · exact ⟨other, there, Source.Steady.refl other⟩
      case stays =>
        intro query present sheltered
        have different : query ≠ key := by
          intro same
          rw [same, orphaned] at sheltered
          cases sheltered
        simpa [State.dropSource, State.releaseRetained] using
          ⟨present, different⟩
  | _ => exact sourcesKept_of_eq rfl

/-- What a change does to the producers and their panes, to the metrics and to
what a producer is admitted by. -/
structure ProducersKept (before after : State) : Prop where
  origin : ∀ producerId producer,
    after.producers.find? producerId = some producer →
      (∃ old, before.producers.find? producerId = some old ∧
        producer.pane = old.pane) ∨
      (producerId = before.nextProducer + 1 ∧
        after.nextProducer = before.nextProducer + 1 ∧
        producer.pane ∈ before.metrics ∧
        after.admitted = before.admitted.insert producerId producer.pane)
  counter : before.nextProducer ≤ after.nextProducer
  metrics : ∀ pane, pane ∈ after.metrics → pane ∈ before.metrics

/-- A producer stays on its pane. -/
def Producer.SamePane (before after : Producer) : Prop :=
  after.pane = before.pane

theorem Producer.SamePane.refl
    (producer : Producer) : producer.SamePane producer :=
  rfl

/-- Producers that are rewritten keep their panes. -/
theorem producersKept_of_related
    (related : before.producers.Related Producer.SamePane after.producers)
    (counter : before.nextProducer ≤ after.nextProducer)
    (metrics : after.metrics = before.metrics) :
    ProducersKept before after where
  origin := by
    intro producerId producer found
    exact .inl (related.exists_before found)
  counter := counter
  metrics := by
    rw [metrics]
    exact fun _ present => present

theorem producersKept_of_eq
    (same : after.producers = before.producers)
    (counter : before.nextProducer ≤ after.nextProducer)
    (metrics : after.metrics = before.metrics) :
    ProducersKept before after := by
  refine producersKept_of_related ?_ counter metrics
  rw [same]
  exact .refl Producer.SamePane.refl _

theorem Change.producersKept
    (change : Change before after) : ProducersKept before after := by
  cases change with
  | quiet quiet =>
      exact producersKept_of_related
        (quiet.producers.weaken fun _ _ same => same.pane)
        (Nat.le_of_eq quiet.nextProducer.symm) quiet.metrics
  | dropProducer producerId =>
      refine ⟨?_, Nat.le_refl _, fun _ present => present⟩
      intro query producer found
      simp only [State.dropProducer, OrderedMap.find?_erase] at found
      split at found
      · cases found
      · exact .inl ⟨producer, found, rfl⟩
  | registerWait producerId producer request wait found few =>
      exact producersKept_of_related
        (OrderedMap.related_modify Producer.SamePane.refl _ _ _ fun _ _ => rfl)
        (Nat.le_refl _) rfl
  | placeAnchors producers related =>
      exact producersKept_of_related
        (related.weaken fun _ _ moved => moved.pane) (Nat.le_refl _) rfl
  | numberProducer => exact producersKept_of_eq rfl (Nat.le_succ _) rfl
  | enterProducer producer display known anchors seen waits =>
      refine ⟨?_, Nat.le_succ _, fun _ present => present⟩
      intro query found there
      simp only [State.enterProducer, OrderedMap.find?_insert] at there
      split at there
      · rename_i new
        cases there
        rw [new]
        exact .inr ⟨rfl, rfl, OrderedMap.mem_of_find?_eq_some known, rfl⟩
      · exact .inl ⟨found, there, rfl⟩
  | forgetPane pane producers nodes sources =>
      refine ⟨fun _ producer found => .inl ⟨producer, found, rfl⟩,
        Nat.le_refl _, ?_⟩
      intro query present
      simp only [State.forgetPane, OrderedMap.mem_erase] at present
      exact present.1
  | _ => exact producersKept_of_eq rfl (Nat.le_refl _) rfl

/-- A change issues no ticket, and a ticket goes with its producer. -/
theorem Change.ticket
    (change : Change before after)
    {token : Nat}
    {ticket : Ticket}
    (found : after.tickets.find? token = some ticket) :
    before.tickets.find? token = some ticket ∧
      (ticket.source.producer ∈ before.producers →
        ticket.source.producer ∈ after.producers) := by
  cases change with
  | quiet quiet =>
      rw [quiet.tickets] at found
      exact ⟨found, (quiet.producers.mem_iff _).mpr⟩
  | dropProducer producerId =>
      simp only [State.dropProducer, OrderedMap.find?_filter] at found
      obtain ⟨there, kept⟩ := Option.filter_eq_some_iff.mp found
      refine ⟨there, fun present => ?_⟩
      simpa [State.dropProducer] using ⟨present, by simpa using kept⟩
  | registerWait producerId producer request wait there few =>
      refine ⟨found, fun present => ?_⟩
      simpa [State.updateProducer] using present
  | placeAnchors producers related =>
      exact ⟨found, (related.mem_iff _).mpr⟩
  | enterProducer producer display known anchors seen waits =>
      refine ⟨found, fun present => ?_⟩
      simp only [State.enterProducer, OrderedMap.mem_insert]
      exact .inr present
  | _ => exact ⟨found, fun present => present⟩

end Media
end Vvmux
