import Vvmux.Media.Notify

/-!
# Scene nodes, transactions and the removal of sources

A transaction is applied to a copy of the scene and takes effect as a whole.
A source goes with its nodes; a producer goes with its nodes and sources,
except that the posters of static sources may stay where their anchors were.
-/

namespace Vvmux
namespace Media

open Library

variable (protocol : Protocol)

abbrev Nodes := OrderedMap ObjectKey SceneNode

/-- The source a node shows. -/
def SceneNode.source (node : SceneNode) : SourceKey :=
  ⟨node.producer, node.config.sourceId⟩

/-- The key a node is stored under. -/
def SceneNode.key (node : SceneNode) : ObjectKey :=
  ⟨node.producer, node.config.nodeId⟩

/-- `validate_node` -/
def validateNode
    (state : State)
    (producerId : ProducerId)
    (node : SceneNode) : Except String Unit :=
  if node.producer ≠ producerId ∨
      ⟨producerId, node.config.sourceId⟩ ∉ state.sources then
    .error "node source is outside producer scope"
  else
    match node.config.anchorId with
    | none => .ok ()
    | some anchor =>
        match state.producers.find? producerId with
        | none => .error "producer missing"
        | some producer =>
            if anchor ∉ producer.anchors ∧ protocol.windows = false then
              .error "node anchor does not exist"
            else .ok ()

/-- What one mutation of a transaction makes of the scene. -/
def applyMutation
    (state : State)
    (producerId : ProducerId)
    (nodes : Nodes) :
    Mutation → Except String Nodes
  | .create node =>
      match validateNode protocol state producerId node with
      | .error text => .error text
      | .ok _ =>
          if (⟨producerId, node.config.nodeId⟩ : ObjectKey) ∈ nodes then
            .error "node ID already exists"
          else .ok (nodes.insert ⟨producerId, node.config.nodeId⟩ node)
  | .update node =>
      match validateNode protocol state producerId node with
      | .error text => .error text
      | .ok _ =>
          if (⟨producerId, node.config.nodeId⟩ : ObjectKey) ∈ nodes then
            .ok (nodes.insert ⟨producerId, node.config.nodeId⟩ node)
          else .error "updated node does not exist"
  | .delete owner nodeId =>
      if (⟨owner, nodeId⟩ : ObjectKey) ∈ nodes then
        .ok (nodes.erase ⟨owner, nodeId⟩)
      else .error "deleted node does not exist"

/-- The mutations of a transaction in their order. -/
def applyMutations
    (state : State)
    (producerId : ProducerId) :
    Nodes → List Mutation → Except String Nodes
  | nodes, [] => .ok nodes
  | nodes, mutation :: rest =>
      match applyMutation protocol state producerId nodes mutation with
      | .error text => .error text
      | .ok changed => applyMutations state producerId changed rest

/-- `validate_scene_structure` -/
def validateSceneStructure
    (state : State)
    (nodes : Nodes) : Except String Unit :=
  protocol.validateScene
    (state.sources.entries.map fun entry =>
      { key := entry.1
        isVideo := entry.2.descriptor.isVideo
        linkedVideo := entry.2.descriptor.linkedVideo.map fun source =>
          ⟨entry.1.producer, source⟩ })
    (nodes.entries.map fun entry =>
      { owner := entry.2.producer
        nodeId := entry.2.config.nodeId
        source := entry.2.source
        x := entry.2.config.x
        y := entry.2.config.y
        width := entry.2.config.width
        height := entry.2.config.height
        clip := entry.2.config.clip })

/-- `apply_transaction` -/
def applyTransaction
    (state : State)
    (producerId : ProducerId)
    (mutations : List Mutation) : State × Except String Unit :=
  match applyMutations protocol state producerId state.nodes mutations with
  | .error text => (state, .error text)
  | .ok nodes =>
      match validateSceneStructure protocol state nodes with
      | .error text => (state, .error text)
      | .ok _ =>
          if state.config.maxNodes < nodes.size then
            (state, .error "node quota exceeded")
          else
            let told := advanceScene protocol { state with nodes := nodes }
              producerId .producerCommit
            match told.2 with
            | .error text => (told.1, .error text)
            | .ok _ => (advanceProjection told.1, .ok ())

/-- Take a source out of the table; the bytes it retains are free again. -/
def State.dropSource
    (state : State)
    (key : SourceKey)
    (source : Source) : State :=
  { state.releaseRetained source.retainedBytes with
    sources := state.sources.erase key }

/-- `remove_source` -/
def removeSource
    (state : State)
    (key : SourceKey) : State × Except String Unit :=
  match state.sources.find? key with
  | none => (state, .error "source does not exist")
  | some source =>
      let removed := state.dropSource key source
      let cleared := { removed with
        nodes := removed.nodes.filter fun _ node => node.source != key }
      if key.producer ∈ cleared.producers then
        let told := advanceScene protocol cleared key.producer .sourceLoss
        match told.2 with
        | .error text => (told.1, .error text)
        | .ok _ => (advanceProjection told.1, .ok ())
      else (advanceProjection cleared, .ok ())

/-- The source of an entry is of no producer and no node shows it. -/
def State.orphaned (state : State) (key : SourceKey) : Bool :=
  decide (key.producer ∉ state.producers) &&
    !state.nodes.entries.any fun entry => entry.2.source == key

/-- `prune_orphaned_sources` -/
def pruneOrphanedSources (state : State) : State :=
  (state.sources.filter fun key _ => state.orphaned key).entries.foldl
    (fun state entry => state.dropSource entry.1 entry.2) state

/-- The poster of a node may outlive its producer. -/
def State.keepsPoster (state : State) (node : SceneNode) : Bool :=
  node.retainedAnchor.isSome &&
    (state.sources.find? node.source).any fun source =>
      source.descriptor.isStatic && source.retained.isSome &&
        source.capturePolicy &&& protocol.denyPosterRetention == 0

/-- A producer leaves the tables that only it writes to. -/
def State.dropProducer (state : State) (producerId : ProducerId) : State :=
  { state with
    producers := state.producers.erase producerId
    transactions := state.transactions.filter fun key _ =>
      key.producer != producerId
    tickets := state.tickets.filter fun _ ticket =>
      ticket.source.producer != producerId
    pendingMediaBarriers := state.pendingMediaBarriers.filter fun key =>
      key.producer != producerId }

/-- `cleanup_producer` -/
def cleanupProducer
    (state : State)
    (producerId : ProducerId)
    (preserveAnchoredStatic : Bool) : State :=
  match state.producers.find? producerId with
  | none => state
  | some runtime =>
      let removed := state.dropProducer producerId
      -- Each node of the producer remembers where its anchor stood.
      let anchored := removed.nodes.mapValues fun _ node =>
        if node.producer = producerId then
          { node with
            retainedAnchor :=
              node.config.anchorId.bind runtime.anchors.find? }
        else node
      let kept := anchored.filter fun _ node =>
        node.producer != producerId ||
          (preserveAnchoredStatic && removed.keepsPoster protocol node)
      advanceProjection (pruneOrphanedSources { removed with nodes := kept })

end Media
end Vvmux
