import Vvmux.Media.Accounting
import Vvmux.Media.Acts

/-!
# Referential integrity of the scene

Nodes refer to sources, and sources and nodes to producers.  Every cleanup
ends by pruning the sources that are left without a producer and a node, and
what a producer leaves behind is a poster.
-/

namespace Vvmux
namespace Media

open Library

variable (protocol : Protocol)

/-- A node without its producer retains its anchor, and shows a static source
that retains a body. -/
structure Poster (state : State) (node : SceneNode) : Prop where
  anchored : node.retainedAnchor.isSome = true
  hydrated : ∃ source, state.sources.find? node.source = some source ∧
    source.descriptor.isStatic = true ∧ source.retained.isSome = true

/-- Every node is under its own key and shows a source that is there, and one
without its producer is a poster. -/
structure NodesIntegral (state : State) : Prop where
  keyed : ∀ key node, state.nodes.find? key = some node →
    key = node.key
  shown : ∀ key node, state.nodes.find? key = some node →
    node.source ∈ state.sources
  posters : ∀ key node, state.nodes.find? key = some node →
    node.producer ∉ state.producers → Poster state node

/-- Besides, every source without its producer is shown by a node. -/
structure SceneIntegral (state : State) : Prop extends NodesIntegral state where
  referenced : ∀ key, key ∈ state.sources → key.producer ∉ state.producers →
    ∃ nodeKey node, state.nodes.find? nodeKey = some node ∧ node.source = key

/-- A producer is registered, or has left no node. -/
def State.Settled (state : State) (producer : ProducerId) : Prop :=
  producer ∈ state.producers ∨
    ∀ key node, state.nodes.find? key = some node → node.producer ≠ producer

/-- A transaction is of a settled producer and for its own nodes, and puts a
node into the scene only while the producer is registered. -/
def State.Buffered
    (state : State)
    (key : ObjectKey)
    (mutations : List Mutation) : Prop :=
  state.Settled key.producer ∧
    ∀ mutation ∈ mutations, mutation.owner = key.producer ∧
      ∀ node, mutation.node? = some node → key.producer ∈ state.producers

def State.TransactionsOwn (state : State) : Prop :=
  ∀ key mutations, state.transactions.find? key = some mutations →
    state.Buffered key mutations

/-! ## Nodes -/

variable {before after state : State} {key : ObjectKey} {node : SceneNode}
  {producer : ProducerId} {mutations : List Mutation} {nodes : Nodes}
  {actor : Actor} {event : PresenterEvent}

/-- Nodes may go, and be placed elsewhere, while their sources stay. -/
theorem NodesIntegral.derive
    (holds : NodesIntegral before)
    (nodes : ∀ key node, after.nodes.find? key = some node →
      ∃ old, before.nodes.find? key = some old ∧
        node.producer = old.producer ∧ node.config = old.config ∧
        (old.retainedAnchor.isSome = true →
          node.retainedAnchor.isSome = true))
    (sources : ∀ key node, after.nodes.find? key = some node →
      ∀ source, before.sources.find? node.source = some source →
        ∃ kept, after.sources.find? node.source = some kept ∧
          source.Keeps kept)
    (producers : ∀ producer, producer ∉ after.producers →
      producer ∉ before.producers) :
    NodesIntegral after := by
  have sameSource : ∀ {node old : SceneNode}, node.producer = old.producer →
      node.config = old.config → node.source = old.source := by
    intro node old producer config
    unfold SceneNode.source
    rw [producer, config]
  constructor
  case keyed =>
    intro key node found
    obtain ⟨old, there, producer, config, -⟩ := nodes key node found
    rw [holds.keyed key old there]
    unfold SceneNode.key
    rw [producer, config]
  case shown =>
    intro key node found
    obtain ⟨old, there, producer, config, -⟩ := nodes key node found
    have present := holds.shown key old there
    rw [← sameSource producer config, ← OrderedMap.find?_isSome_iff] at present
    obtain ⟨source, isSource⟩ := Option.isSome_iff_exists.mp present
    obtain ⟨kept, isKept, -⟩ := sources key node found source isSource
    exact OrderedMap.mem_of_find?_eq_some isKept
  case posters =>
    intro key node found gone
    obtain ⟨old, there, producer, config, anchored⟩ := nodes key node found
    rw [producer] at gone
    obtain ⟨anchor, source, isSource, static, retains⟩ :=
      holds.posters key old there (producers _ gone)
    rw [← sameSource producer config] at isSource
    obtain ⟨kept, isKept, keeps⟩ := sources key node found source isSource
    refine ⟨anchored anchor, kept, isKept, ?_, keeps.retained static retains⟩
    rw [keeps.descriptor]
    exact static

/-- Sources that all stay. -/
theorem NodesIntegral.deriveNodes
    (holds : NodesIntegral before)
    (nodes : ∀ key node, after.nodes.find? key = some node →
      ∃ old, before.nodes.find? key = some old ∧
        node.producer = old.producer ∧ node.config = old.config ∧
        (old.retainedAnchor.isSome = true →
          node.retainedAnchor.isSome = true))
    (sources : after.sources = before.sources)
    (producers : ∀ producer, producer ∉ after.producers →
      producer ∉ before.producers) :
    NodesIntegral after := by
  refine holds.derive nodes ?_ producers
  intro key node found source isSource
  refine ⟨source, ?_, .refl source⟩
  rw [sources]
  exact isSource

theorem NodesIntegral.filterNodes
    (holds : NodesIntegral state)
    (keep : ObjectKey → SceneNode → Bool) :
    NodesIntegral { state with nodes := state.nodes.filter keep } := by
  refine holds.deriveNodes ?_ rfl fun _ gone => gone
  intro key node found
  rw [OrderedMap.find?_filter] at found
  exact ⟨node, Option.eq_some_of_filter_eq_some found, rfl, rfl, id⟩

/-- A source that a node shows is no orphan. -/
theorem orphaned_of_shown
    (found : state.nodes.find? key = some node) :
    state.orphaned node.source = false := by
  unfold State.orphaned
  refine Bool.and_eq_false_iff.mpr (.inr ?_)
  rw [Bool.not_eq_false', List.any_eq_true]
  exact ⟨(key, node), OrderedMap.find?_eq_some_iff.mp found, by simp⟩

/-- Pruning makes the scene whole. -/
theorem NodesIntegral.prune
    (holds : NodesIntegral state) :
    SceneIntegral (pruneOrphanedSources state) := by
  obtain ⟨producers, nodes⟩ := prune_others state
  refine ⟨holds.derive ?_ ?_ ?_, ?_⟩
  · rw [nodes]
    exact fun key node found => ⟨node, found, rfl, rfl, id⟩
  · rw [nodes]
    intro key node found source isSource
    refine ⟨source, ?_, .refl source⟩
    rw [find?_pruneOrphanedSources, orphaned_of_shown found]
    exact isSource
  · rw [producers]
    exact fun _ gone => gone
  · intro key present gone
    have sheltered := orphaned_pruneOrphanedSources state key present
    exact (shown_of_not_orphaned sheltered).resolve_left gone

theorem SceneIntegral.advanceProjection
    (holds : SceneIntegral state) :
    SceneIntegral (Media.advanceProjection state) :=
  ⟨⟨holds.keyed, holds.shown, fun key node found gone =>
    ⟨(holds.posters key node found gone).anchored,
      (holds.posters key node found gone).hydrated⟩⟩, holds.referenced⟩

/-! ## Tame changes -/

theorem Still.settled
    (still : Still before after)
    (settled : before.Settled producer) : after.Settled producer := by
  unfold State.Settled at settled ⊢
  rw [still.producers, still.nodes]
  exact settled

theorem Still.sceneIntegral
    (still : Still before after)
    (holds : SceneIntegral before) : SceneIntegral after := by
  refine ⟨holds.derive ?_ ?_ ?_, ?_⟩
  · rw [still.nodes]
    exact fun key node found => ⟨node, found, rfl, rfl, id⟩
  · intro _ node _ source isSource
    exact still.sources.exists_after isSource
  · exact fun producer gone present =>
      gone ((still.producers producer).mpr present)
  · intro key present gone
    rw [still.nodes]
    exact holds.referenced key ((still.sources.mem_iff key).mp present)
      fun there => gone ((still.producers _).mpr there)

theorem Still.transactionsOwn
    (still : Still before after)
    (owns : before.TransactionsOwn) : after.TransactionsOwn := by
  intro key mutations found
  obtain ⟨settled, own⟩ :=
    owns key mutations (still.transactions key mutations found)
  refine ⟨still.settled settled, ?_⟩
  intro mutation listed
  obtain ⟨owner, registered⟩ := own mutation listed
  exact ⟨owner, fun node puts =>
    (still.producers _).mpr (registered node puts)⟩

/-! ## Producers that go -/

/-- The nodes that stay when a producer goes. -/
def State.nodesWithout
    (state : State)
    (producer : ProducerId)
    (runtime : Producer)
    (preserve : Bool) : Nodes :=
  (state.nodes.mapValues fun _ node =>
    if node.producer = producer then
      { node with
        retainedAnchor := node.config.anchorId.bind runtime.anchors.find? }
    else node).filter fun _ node =>
      node.producer != producer ||
        (preserve && (state.dropProducer producer).keepsPoster protocol node)

variable {runtime : Producer}

theorem cleanupProducer_eq
    (found : state.producers.find? producer = some runtime)
    (preserve : Bool) :
    cleanupProducer protocol state producer preserve =
      advanceProjection (pruneOrphanedSources
        { state.dropProducer producer with
          nodes := state.nodesWithout protocol producer runtime preserve }) := by
  unfold cleanupProducer
  rw [found]
  rfl

/-- A node that stays is of another producer, or the poster of a node. -/
structure StaysWithout
    (state : State)
    (producer : ProducerId)
    (preserve : Bool)
    (key : ObjectKey)
    (old node : SceneNode) : Prop where
  found : state.nodes.find? key = some old
  owner : node.producer = old.producer
  config : node.config = old.config
  stays : (old.producer ≠ producer ∧ node = old) ∨
    (old.producer = producer ∧ preserve = true ∧
      state.keepsPoster protocol node = true)

theorem staysWithout
    {preserve : Bool}
    (found : (state.nodesWithout protocol producer runtime
      preserve).find? key = some node) :
    ∃ old, StaysWithout protocol state producer preserve key old node := by
  simp only [State.nodesWithout, OrderedMap.find?_filter,
    OrderedMap.find?_mapValues] at found
  obtain ⟨moved, kept⟩ := Option.filter_eq_some_iff.mp found
  obtain ⟨old, there, rfl⟩ := Option.map_eq_some_iff.mp moved
  refine ⟨old, ?_⟩
  by_cases own : old.producer = producer
  · rw [if_pos own] at kept ⊢
    have keeps := (Bool.or_eq_true_iff.mp kept).resolve_left (by simp [own])
    obtain ⟨preserves, poster⟩ := Bool.and_eq_true_iff.mp keeps
    exact ⟨there, rfl, rfl, .inr ⟨own, preserves, poster⟩⟩
  · rw [if_neg own]
    exact ⟨there, rfl, rfl, .inl ⟨own, rfl⟩⟩

/-- What a producer leaves behind are posters. -/
theorem SceneIntegral.cleanupProducer
    (holds : SceneIntegral state)
    (producer : ProducerId)
    (preserve : Bool) :
    SceneIntegral (Media.cleanupProducer protocol state producer preserve) := by
  cases registered : state.producers.find? producer with
  | none =>
      unfold Media.cleanupProducer
      rw [registered]
      exact holds
  | some runtime =>
      rw [cleanupProducer_eq protocol registered]
      refine SceneIntegral.advanceProjection (NodesIntegral.prune ?_)
      constructor
      case keyed =>
        intro key node found
        obtain ⟨old, stays⟩ := staysWithout protocol found
        rw [holds.keyed key old stays.found]
        unfold SceneNode.key
        rw [stays.owner, stays.config]
      case shown =>
        intro key node found
        obtain ⟨old, stays⟩ := staysWithout protocol found
        have present := holds.shown key old stays.found
        unfold SceneNode.source at present ⊢
        rw [stays.owner, stays.config]
        exact present
      case posters =>
        intro key node found gone
        obtain ⟨old, stays⟩ := staysWithout protocol found
        rcases stays.stays with ⟨other, rfl⟩ | ⟨-, -, poster⟩
        · have unregistered : node.producer ∉ state.producers := by
            intro present
            exact gone ((OrderedMap.mem_erase _ _ _).mpr ⟨present, other⟩)
          obtain ⟨anchored, hydrated⟩ :=
            holds.posters key node stays.found unregistered
          exact ⟨anchored, hydrated⟩
        · obtain ⟨anchored, retains⟩ := Bool.and_eq_true_iff.mp poster
          obtain ⟨source, isSource, keeps⟩ := (Option.any_eq_true _ _).mp retains
          obtain ⟨bodies, -⟩ := Bool.and_eq_true_iff.mp keeps
          obtain ⟨static, body⟩ := Bool.and_eq_true_iff.mp bodies
          exact ⟨anchored, source, isSource, static, body⟩

/-- A producer other than one that leaves posters stays settled. -/
theorem State.Settled.cleanupProducer
    {query : ProducerId}
    (settled : state.Settled query)
    (producer : ProducerId)
    (preserve : Bool)
    (apart : preserve = true → query ≠ producer) :
    (Media.cleanupProducer protocol state producer preserve).Settled query := by
  cases registered : state.producers.find? producer with
  | none =>
      unfold Media.cleanupProducer
      rw [registered]
      exact settled
  | some runtime =>
      by_cases here : query = producer
      · right
        rw [cleanupProducer_eq protocol registered]
        intro key node found owned
        simp only [advanceProjection, (prune_others _).2] at found
        obtain ⟨old, stays⟩ := staysWithout protocol found
        rw [stays.owner, here] at owned
        rcases stays.stays with ⟨other, -⟩ | ⟨-, preserves, -⟩
        · exact other owned
        · exact apart preserves here
      · rcases settled with present | none
        · left
          rw [← OrderedMap.find?_isSome_iff, producers_cleanupProducer,
            if_neg here, OrderedMap.find?_isSome_iff]
          exact present
        · right
          rw [cleanupProducer_eq protocol registered]
          intro key node found owned
          simp only [advanceProjection, (prune_others _).2] at found
          obtain ⟨old, stays⟩ := staysWithout protocol found
          rw [stays.owner] at owned
          exact none key old stays.found owned

/-- What cleaning several producers up without posters preserves. -/
theorem cleanupProducers_preserve
    (invariant : State → Prop)
    (preserved : ∀ state producer, invariant state →
      invariant (cleanupProducer protocol state producer false))
    (producers : List ProducerId)
    (state : State)
    (holds : invariant state) :
    invariant (producers.foldl
      (fun state producer => cleanupProducer protocol state producer false)
      state) := by
  induction producers generalizing state with
  | nil => exact holds
  | cons producer rest ih =>
      exact ih _ (preserved state producer holds)

/-- Fewer nodes leave the producers settled. -/
theorem State.Settled.fewer
    (settled : before.Settled producer)
    (producers : ∀ producer, producer ∈ before.producers →
      producer ∈ after.producers)
    (nodes : ∀ key node, after.nodes.find? key = some node →
      ∃ old, before.nodes.find? key = some old ∧
        node.producer = old.producer) :
    after.Settled producer := by
  rcases settled with present | none
  · exact .inl (producers producer present)
  · right
    intro key node found owned
    obtain ⟨old, there, owner⟩ := nodes key node found
    exact none key old there (owner.symm.trans owned)

/-- A revoked pane's nodes go, and the sources that only they showed. -/
theorem SceneIntegral.revokePane
    (holds : SceneIntegral state)
    (pane : PaneId) : SceneIntegral (Media.revokePane protocol state pane) := by
  have cleaned := cleanupProducers_preserve protocol SceneIntegral
    (fun state producer holds =>
      SceneIntegral.cleanupProducer protocol holds producer false)
    (State.producersOf
      { state with capabilities := state.capabilities.erase pane } pane)
    { state with capabilities := state.capabilities.erase pane }
    ⟨⟨holds.keyed, holds.shown, fun key node found gone =>
      ⟨(holds.posters key node found gone).anchored,
        (holds.posters key node found gone).hydrated⟩⟩, holds.referenced⟩
  have pruned := (cleaned.filterNodes fun _ node => node.pane != pane).prune
  refine SceneIntegral.advanceProjection ⟨⟨pruned.keyed, pruned.shown, ?_⟩,
    pruned.referenced⟩
  intro key node found gone
  obtain ⟨anchored, hydrated⟩ := pruned.posters key node found gone
  exact ⟨anchored, hydrated⟩

/-- What `revoke_pane` does after the cleanups. -/
theorem State.Settled.forgotten
    {cleaned : State}
    (settled : cleaned.Settled producer)
    (pane : PaneId) :
    (advanceProjection ((pruneOrphanedSources
      { cleaned with
        nodes := cleaned.nodes.filter fun _ node =>
          node.pane != pane }).forgetPane pane)).Settled producer := by
  refine settled.fewer ?_ ?_
  · intro query present
    simp only [advanceProjection, State.forgetPane, (prune_others _).1]
    exact present
  · intro key node found
    simp only [advanceProjection, State.forgetPane, (prune_others _).2,
      OrderedMap.find?_filter] at found
    exact ⟨node, Option.eq_some_of_filter_eq_some found, rfl⟩

theorem State.Settled.revokePane
    (settled : state.Settled producer)
    (pane : PaneId) :
    (Media.revokePane protocol state pane).Settled producer :=
  (cleanupProducers_preserve protocol
    (fun state => state.Settled producer)
    (fun _ other settled =>
      State.Settled.cleanupProducer protocol settled other false
        fun preserves => nomatch preserves)
    (State.producersOf
      { state with capabilities := state.capabilities.erase pane } pane)
    { state with capabilities := state.capabilities.erase pane }
    settled).forgotten pane

/-! ## Transactions -/

theorem transactions_pruneOrphanedSources
    (state : State) :
    (pruneOrphanedSources state).transactions = state.transactions := by
  unfold pruneOrphanedSources
  generalize (state.sources.filter fun key _ => state.orphaned key).entries =
    entries
  induction entries generalizing state with
  | nil => rfl
  | cons entry rest ih =>
      exact ih (state.dropSource entry.1 entry.2)

/-- Transactions that are left, of producers that stay as they are. -/
theorem State.TransactionsOwn.fewer
    (owns : before.TransactionsOwn)
    (transactions : ∀ key mutations,
      after.transactions.find? key = some mutations →
        before.transactions.find? key = some mutations)
    (settled : ∀ key, key ∈ after.transactions →
      before.Settled key.producer → after.Settled key.producer)
    (registered : ∀ key, key ∈ after.transactions →
      key.producer ∈ before.producers → key.producer ∈ after.producers) :
    after.TransactionsOwn := by
  intro key mutations found
  have present := OrderedMap.mem_of_find?_eq_some found
  obtain ⟨calm, own⟩ := owns key mutations (transactions key mutations found)
  refine ⟨settled key present calm, ?_⟩
  intro mutation listed
  obtain ⟨owner, puts⟩ := own mutation listed
  exact ⟨owner, fun node isNode => registered key present (puts node isNode)⟩

/-- The transactions of a producer go with it. -/
theorem State.TransactionsOwn.cleanupProducer
    (owns : state.TransactionsOwn)
    (producer : ProducerId)
    (preserve : Bool) :
    (Media.cleanupProducer protocol state producer
      preserve).TransactionsOwn := by
  cases registered : state.producers.find? producer with
  | none =>
      unfold Media.cleanupProducer
      rw [registered]
      exact owns
  | some runtime =>
      have left : ∀ key mutations,
          (Media.cleanupProducer protocol state producer
            preserve).transactions.find? key = some mutations →
          key.producer ≠ producer ∧
            state.transactions.find? key = some mutations := by
        intro key mutations found
        rw [cleanupProducer_eq protocol registered] at found
        simp only [advanceProjection, transactions_pruneOrphanedSources,
          State.dropProducer, OrderedMap.find?_filter] at found
        obtain ⟨there, other⟩ := Option.filter_eq_some_iff.mp found
        exact ⟨by simpa using other, there⟩
      have other : ∀ key, key ∈ (Media.cleanupProducer protocol state producer
          preserve).transactions → key.producer ≠ producer := by
        intro key present
        obtain ⟨mutations, found⟩ := Option.isSome_iff_exists.mp
          ((OrderedMap.find?_isSome_iff _ _).mpr present)
        exact (left key mutations found).1
      refine owns.fewer (fun key mutations found => (left _ _ found).2) ?_ ?_
      · exact fun key present settled =>
          settled.cleanupProducer protocol producer preserve
            fun _ => other key present
      · intro key present there
        rw [← OrderedMap.find?_isSome_iff, producers_cleanupProducer,
          if_neg (other key present), OrderedMap.find?_isSome_iff]
        exact there

theorem State.TransactionsOwn.revokePane
    (owns : state.TransactionsOwn)
    (pane : PaneId) :
    (Media.revokePane protocol state pane).TransactionsOwn := by
  have cleaned := cleanupProducers_preserve protocol State.TransactionsOwn
    (fun state producer owns =>
      State.TransactionsOwn.cleanupProducer protocol owns producer false)
    (State.producersOf
      { state with capabilities := state.capabilities.erase pane } pane)
    { state with capabilities := state.capabilities.erase pane }
    owns
  refine cleaned.fewer ?_ ?_ ?_
  · intro key mutations found
    unfold Media.revokePane at found
    simp only [advanceProjection, State.forgetPane,
      transactions_pruneOrphanedSources] at found
    exact found
  · exact fun key _ settled => settled.forgotten pane
  · intro key _ there
    unfold Media.revokePane
    simp only [advanceProjection, State.forgetPane, (prune_others _).1]
    exact there

/-! ## Commits -/

/-- A transaction leaves the nodes of other producers alone; by induction over
its mutations. -/
theorem applyMutations_others
    (mutations : List Mutation)
    (own : ∀ mutation ∈ mutations, mutation.owner = producer)
    {nodes after : Nodes}
    (applied : applyMutations protocol state producer nodes mutations =
      .ok after)
    {key : ObjectKey}
    (other : key.producer ≠ producer) : after.find? key = nodes.find? key := by
  have apart : ∀ node, (⟨producer, node⟩ : ObjectKey) ≠ key := by
    intro node same
    rw [← same] at other
    exact other rfl
  induction mutations generalizing nodes with
  | nil =>
      cases applied
      rfl
  | cons mutation rest ih =>
      unfold applyMutations at applied
      split at applied
      · cases applied
      · rename_i changed first
        rw [ih
          (fun later listed => own later (List.mem_cons_of_mem _ listed))
          applied]
        have owner := own mutation (List.mem_cons_self ..)
        unfold applyMutation at first
        split at first
        · split at first
          · cases first
          · split at first
            · cases first
            · cases first
              rw [OrderedMap.find?_insert, if_neg fun same => apart _ same.symm]
        · split at first
          · cases first
          · split at first
            · cases first
              rw [OrderedMap.find?_insert, if_neg fun same => apart _ same.symm]
            · cases first
        · split at first
          · cases first
            cases owner
            rw [OrderedMap.find?_erase, if_neg fun same => apart _ same.symm]
          · cases first

/-- The nodes a buffered transaction leaves: old ones, and new ones of its
registered producer. -/
theorem committed_node
    (buffered : state.Buffered key mutations)
    (applied : applyMutations protocol
      { state with transactions := state.transactions.erase key }
      key.producer state.nodes mutations = .ok nodes)
    {nodeKey : ObjectKey}
    {node : SceneNode}
    (found : nodes.find? nodeKey = some node) :
    state.nodes.find? nodeKey = some node ∨
      (nodeKey = node.key ∧ node.producer ∈ state.producers ∧
        node.source ∈ state.sources) := by
  rcases applyMutations_commits protocol mutations applied found with
    old | ⟨isKey, owned, present, mutation, listed, puts⟩
  · exact .inl old
  · refine .inr ⟨?_, ?_, present⟩
    · rw [isKey, ← owned]
      rfl
    · rw [owned]
      exact (buffered.2 mutation listed).2 node puts

theorem SceneIntegral.commit
    (holds : SceneIntegral state)
    (buffered : state.Buffered key mutations)
    (applied : applyMutations protocol
      { state with transactions := state.transactions.erase key }
      key.producer state.nodes mutations = .ok nodes) :
    SceneIntegral
      { state with
        transactions := state.transactions.erase key
        nodes := nodes } := by
  refine ⟨⟨?_, ?_, ?_⟩, ?_⟩
  · intro nodeKey node found
    rcases committed_node protocol buffered applied found with old | new
    · exact holds.keyed nodeKey node old
    · exact new.1
  · intro nodeKey node found
    rcases committed_node protocol buffered applied found with old | new
    · exact holds.shown nodeKey node old
    · exact new.2.2
  · intro nodeKey node found gone
    rcases committed_node protocol buffered applied found with old | new
    · obtain ⟨anchored, hydrated⟩ := holds.posters nodeKey node old gone
      exact ⟨anchored, hydrated⟩
    · exact absurd new.2.1 gone
  · intro source present gone
    obtain ⟨nodeKey, node, found, shows⟩ :=
      holds.referenced source present gone
    -- A node of a producer that is gone is none of the transaction's.
    have other : node.producer ≠ key.producer := by
      intro same
      have owned : node.producer = source.producer := by
        rw [← shows]
        rfl
      rcases buffered.1 with registered | none
      · rw [← same, owned] at registered
        exact gone registered
      · exact none nodeKey node found same
    refine ⟨nodeKey, node, ?_, shows⟩
    rw [applyMutations_others protocol mutations
      (fun mutation listed => (buffered.2 mutation listed).1) applied]
    · exact found
    · rw [holds.keyed nodeKey node found]
      exact other

theorem State.Settled.commit
    (settled : state.Settled producer)
    (buffered : state.Buffered key mutations)
    (applied : applyMutations protocol
      { state with transactions := state.transactions.erase key }
      key.producer state.nodes mutations = .ok nodes) :
    State.Settled
      { state with
        transactions := state.transactions.erase key
        nodes := nodes } producer := by
  rcases settled with present | none
  · exact .inl present
  · by_cases registered : producer ∈ state.producers
    · exact .inl registered
    · right
      intro nodeKey node found owned
      rcases committed_node protocol buffered applied found with old | new
      · exact none nodeKey node old owned
      · rw [owned] at new
        exact registered new.2.1

/-! ## Acts -/

/-- The anchors of a pane move, or are forgotten; the producers stay. -/
theorem mem_mapValues_producers
    (state : State)
    (change : ProducerId → Producer → Producer)
    (producer : ProducerId) :
    producer ∈ state.producers.mapValues change ↔
      producer ∈ state.producers := by
  rw [← OrderedMap.find?_isSome_iff, ← OrderedMap.find?_isSome_iff,
    OrderedMap.find?_mapValues, Option.isSome_map]

/-- Nodes whose anchors moved. -/
theorem moved_node
    {pane : PaneId}
    {lines : Int}
    (found : (state.moveAnchors pane lines).nodes.find? key = some node) :
    ∃ old, state.nodes.find? key = some old ∧
      node.producer = old.producer ∧ node.config = old.config ∧
      node.retainedAnchor.isSome = old.retainedAnchor.isSome := by
  simp only [State.moveAnchors, OrderedMap.find?_mapValues] at found
  obtain ⟨old, there, rfl⟩ := Option.map_eq_some_iff.mp found
  refine ⟨old, there, ?_⟩
  split
  · exact ⟨rfl, rfl, Option.isSome_map⟩
  · exact ⟨rfl, rfl, rfl⟩

theorem node_moved
    (pane : PaneId)
    (lines : Int)
    (found : state.nodes.find? key = some node) :
    ∃ moved, (state.moveAnchors pane lines).nodes.find? key = some moved ∧
      moved.source = node.source := by
  simp only [State.moveAnchors, OrderedMap.find?_mapValues, found,
    Option.map_some]
  refine ⟨_, rfl, ?_⟩
  split
  · rfl
  · rfl

theorem SceneIntegral.withTransactions
    (holds : SceneIntegral state)
    (transactions : OrderedMap ObjectKey (List Mutation)) :
    SceneIntegral { state with transactions := transactions } :=
  ⟨holds.deriveNodes (fun _ node found => ⟨node, found, rfl, rfl, id⟩) rfl
    fun _ gone => gone, holds.referenced⟩

theorem filtered_node
    {keep : ObjectKey → SceneNode → Bool}
    (found : (state.nodes.filter keep).find? key = some node) :
    ∃ old, state.nodes.find? key = some old ∧
      node.producer = old.producer := by
  rw [OrderedMap.find?_filter] at found
  exact ⟨node, Option.eq_some_of_filter_eq_some found, rfl⟩

/-- Destroying a source takes its nodes along. -/
theorem SceneIntegral.destroy
    (holds : SceneIntegral state)
    (key : SourceKey)
    (source : Source) :
    SceneIntegral
      { state.dropSource key source with
        nodes := state.nodes.filter fun _ node => node.source != key } := by
  refine ⟨holds.derive ?_ ?_ fun _ gone => gone, ?_⟩
  · intro nodeKey node found
    simp only [OrderedMap.find?_filter] at found
    exact ⟨node, Option.eq_some_of_filter_eq_some found, rfl, rfl, id⟩
  · intro nodeKey node found other isSource
    simp only [OrderedMap.find?_filter] at found
    have apart : node.source ≠ key := by
      simpa using (Option.filter_eq_some_iff.mp found).2
    refine ⟨other, ?_, .refl other⟩
    simp only [State.dropSource, OrderedMap.find?_erase, if_neg apart]
    exact isSource
  · intro query present gone
    obtain ⟨there, apart⟩ := (OrderedMap.mem_erase _ _ _).mp present
    obtain ⟨nodeKey, node, found, shows⟩ :=
      holds.referenced query there gone
    refine ⟨nodeKey, node, ?_, shows⟩
    simp only [OrderedMap.find?_filter, found]
    rw [Option.filter_eq_some_iff]
    exact ⟨rfl, by simpa [shows] using apart⟩

/-- A source that is new is no poster's. -/
theorem SceneIntegral.create
    (holds : SceneIntegral state)
    {key : SourceKey}
    (fresh : key ∉ state.sources)
    (registered : key.producer ∈ state.producers)
    (source : Source)
    (token : Nat)
    (ticket : Ticket) :
    SceneIntegral (state.enterSource key source token ticket) := by
  refine ⟨holds.derive (fun _ node found => ⟨node, found, rfl, rfl, id⟩) ?_
    fun _ gone => gone, ?_⟩
  · intro nodeKey node found other isSource
    have apart : node.source ≠ key := by
      intro same
      rw [← same] at fresh
      exact fresh (holds.shown nodeKey node found)
    refine ⟨other, ?_, .refl other⟩
    simp only [State.enterSource, OrderedMap.find?_insert, if_neg apart]
    exact isSource
  · intro query present gone
    rcases (OrderedMap.mem_insert _ _ _ _).mp present with rfl | there
    · exact absurd registered gone
    · exact holds.referenced query there gone

/-- The scene stays whole while sources are entered only for registered
producers. -/
theorem SceneIntegral.act
    (holds : SceneIntegral before)
    (owns : before.TransactionsOwn)
    (act : Act protocol actor before after)
    (creates : ∀ key, key ∈ after.sources → key ∉ before.sources →
      key.producer ∈ before.producers) :
    SceneIntegral after := by
  cases act with
  | none => exact holds
  | begin _ key | buffer _ key mutation owner puts =>
      exact holds.withTransactions _
  | commit _ key mutations nodes opened applied =>
      exact holds.commit protocol (owns key mutations opened) applied
  | create _ key source token ticket fresh =>
      refine holds.create fresh (creates key ?_ fresh) source token ticket
      exact (OrderedMap.mem_insert _ _ _ _).mpr (.inl rfl)
  | destroy _ key source => exact holds.destroy key source
  | leave _ producer => exact holds.cleanupProducer protocol producer true
  | scroll _ pane lines =>
      have kept : ∀ producer,
          producer ∈ (before.moveAnchors pane lines).producers ↔
            producer ∈ before.producers :=
        mem_mapValues_producers before _
      refine ⟨holds.deriveNodes ?_ rfl ?_, ?_⟩
      · intro key node found
        obtain ⟨old, there, producer, config, anchored⟩ := moved_node found
        refine ⟨old, there, producer, config, ?_⟩
        rw [anchored]
        exact id
      · exact fun producer gone present => gone ((kept producer).mpr present)
      · intro key present gone
        obtain ⟨nodeKey, node, found, shows⟩ := holds.referenced key present
          fun there => gone ((kept _).mpr there)
        obtain ⟨moved, isMoved, same⟩ := node_moved pane lines found
        exact ⟨nodeKey, moved, isMoved, same.trans shows⟩
  | clear _ pane =>
      refine NodesIntegral.prune (holds.deriveNodes ?_ rfl ?_)
      · intro key node found
        simp only [State.withoutAnchors, OrderedMap.find?_filter] at found
        exact ⟨node, Option.eq_some_of_filter_eq_some found, rfl, rfl, id⟩
      · exact fun producer gone present =>
          gone ((mem_mapValues_producers before _ producer).mpr present)
  | revoke _ pane => exact holds.revokePane protocol pane
  | enter _ producer =>
      refine ⟨holds.deriveNodes (fun _ node found => ⟨node, found, rfl, rfl, id⟩)
        rfl ?_, ?_⟩
      · exact fun query gone present =>
          gone ((OrderedMap.mem_insert _ _ _ _).mpr (.inr present))
      · exact fun key present gone => holds.referenced key present
          fun there => gone ((OrderedMap.mem_insert _ _ _ _).mpr (.inr there))

/-- Producers stay settled in all acts but that of a thread which leaves. -/
theorem State.Settled.act
    (settled : before.Settled producer)
    (owns : before.TransactionsOwn)
    (act : Act protocol actor before after)
    (apart : actor ≠ .leaving producer) : after.Settled producer := by
  have all : ∀ key node, before.nodes.find? key = some node →
      ∃ old, before.nodes.find? key = some old ∧
        node.producer = old.producer :=
    fun _ node found => ⟨node, found, rfl⟩
  cases act with
  | none => exact settled
  | begin _ key => exact settled.fewer (fun _ present => present) all
  | buffer _ key mutation owner puts =>
      exact settled.fewer (fun _ present => present) all
  | commit _ key mutations nodes opened applied =>
      exact settled.commit protocol (owns key mutations opened) applied
  | create _ key source token ticket fresh =>
      exact settled.fewer (fun _ present => present) all
  | destroy _ key source =>
      exact settled.fewer (fun _ present => present)
        fun _ _ found => filtered_node found
  | leave _ leaving =>
      refine settled.cleanupProducer protocol leaving true ?_
      rintro - rfl
      exact apart rfl
  | scroll _ pane lines =>
      refine settled.fewer (fun producer present =>
        (mem_mapValues_producers before _ producer).mpr present) ?_
      intro key node found
      obtain ⟨old, there, owner, -⟩ := moved_node found
      exact ⟨old, there, owner⟩
  | clear _ pane =>
      refine settled.fewer ?_ ?_
      · intro query present
        rw [(prune_others _).1]
        exact (mem_mapValues_producers before _ query).mpr present
      · intro key node found
        rw [(prune_others _).2] at found
        exact filtered_node found
  | revoke _ pane => exact settled.revokePane protocol pane
  | enter _ entered =>
      exact settled.fewer (fun query present =>
        (OrderedMap.mem_insert _ _ _ _).mpr (.inr present)) all

/-- A transaction that is begun is of the settled producer that acts. -/
theorem State.TransactionsOwn.act
    (owns : before.TransactionsOwn)
    (settled : ∀ producer, actor = .serving producer →
      before.Settled producer)
    (act : Act protocol actor before after) : after.TransactionsOwn := by
  cases act with
  | none => exact owns
  | begin _ key =>
      intro query mutations found
      simp only [OrderedMap.find?_insert] at found
      split at found
      · rename_i new
        cases found
        rw [new]
        exact ⟨settled _ rfl, fun mutation listed => by cases listed⟩
      · exact owns query mutations found
  | buffer _ key mutation owner puts =>
      intro query mutations found
      simp only [State.bufferMutation, OrderedMap.find?_modify] at found
      split at found
      · rename_i here
        obtain ⟨opened, there, rfl⟩ := Option.map_eq_some_iff.mp found
        rw [here] at there ⊢
        obtain ⟨calm, own⟩ := owns key opened there
        refine ⟨calm, ?_⟩
        intro other listed
        rcases List.mem_append.mp listed with old | new
        · exact own other old
        · rw [List.mem_singleton.mp new]
          exact ⟨owner, puts⟩
      · exact owns query mutations found
  | commit _ key mutations nodes opened applied =>
      refine owns.fewer ?_ ?_ fun _ _ present => present
      · intro query buffered found
        simp only [OrderedMap.find?_erase] at found
        split at found
        · cases found
        · exact found
      · intro query _ calm
        exact calm.commit protocol (owns key mutations opened) applied
  | leave _ leaving => exact owns.cleanupProducer protocol leaving true
  | revoke _ pane => exact owns.revokePane protocol pane
  | clear _ pane =>
      refine owns.fewer ?_ ?_ ?_
      · rw [transactions_pruneOrphanedSources]
        exact fun _ _ found => found
      · intro key _ calm
        exact State.Settled.act protocol calm owns (.clear before pane)
          (by simp)
      · intro key _ present
        rw [(prune_others _).1]
        exact (mem_mapValues_producers before _ _).mpr present
  | scroll _ pane lines =>
      refine owns.fewer (fun _ _ found => found) ?_ ?_
      · intro key _ calm
        exact State.Settled.act protocol calm owns (.scroll before pane lines)
          (by simp)
      · exact fun key _ present =>
          (mem_mapValues_producers before _ _).mpr present
  | enter _ entered =>
      refine owns.fewer (fun _ _ found => found) ?_ ?_
      · intro key _ calm
        exact State.Settled.act protocol calm owns (.enter before entered)
          (by simp)
      · exact fun key _ present =>
          (OrderedMap.mem_insert _ _ _ _).mpr (.inr present)
  | create _ key source token ticket fresh =>
      exact owns.fewer (fun _ _ found => found) (fun _ _ calm => calm)
        fun _ _ present => present
  | destroy _ key source =>
      refine owns.fewer (fun _ _ found => found) ?_ fun _ _ present => present
      exact fun key _ calm => calm.fewer (fun _ present => present)
        fun _ _ found => filtered_node found

/-! ## Threads -/

/-- A thread serves a producer. -/
def Presenter.Serves
    (presenter : Presenter)
    (thread : Nat)
    (producer : ProducerId) : Prop :=
  (presenter.phase? thread).bind Phase.serving? = some producer

/-- Each producer that is served is so by one thread, and was numbered. -/
structure ServedAlone (presenter : Presenter) : Prop where
  alone : ∀ first second producer, presenter.Serves first producer →
    presenter.Serves second producer → first = second
  known : ∀ thread producer, presenter.Serves thread producer →
    producer ≤ presenter.shared.nextProducer

/-- A thread that serves a producer did so before the step, or was just
admitted. -/
theorem serves_before
    {before after : Presenter}
    (threads : Threads protocol before after event)
    {thread : Nat}
    (serves : after.Serves thread producer) :
    before.Serves thread producer ∨
      (event.thread? = some thread ∧
        producer = before.shared.nextProducer + 1 ∧
        after.shared.nextProducer = producer ∧
        producer ∈ after.shared.producers) := by
  unfold Presenter.Serves at serves ⊢
  cases threads with
  | still _ same =>
      rw [Presenter.phase?_congr same] at serves
      exact .inl serves
  | turn _ own old new isOwn there moved turn =>
      rw [Presenter.phase?_congr moved, Presenter.phase?_move] at serves
      split at serves
      · rename_i here
        rw [there] at serves
        rw [here, there]
        have isServing : new.serving? = some producer := serves
        cases turn with
        | onward _ _ _ unsent unsends keeps =>
            rcases keeps with idle | same
            · rw [idle] at isServing
              cases isServing
            · rw [same] at isServing
              exact .inl isServing
        | admitted _ tag spawns _ unsent counted registered =>
            cases isServing
            exact .inr ⟨isOwn, counted, rfl, registered⟩
        | ingested _ now writable ticket record =>
            rw [serving?_settledPhase] at isServing
            cases isServing
        | sent _ taken ticket sent _ unsends idle =>
            rw [idle] at isServing
            cases isServing
      · exact .inl serves
  | start own connection channel unused inserted =>
      rw [Presenter.phase?_insert inserted] at serves
      split at serves
      · cases channel with
        | none => cases serves
        | some kind => cases serves
      · exact .inl serves
  | stop own finished erased =>
      rw [Presenter.phase?_erase erased] at serves
      split at serves
      · cases serves
      · exact .inl serves

/-- Producers are numbered upwards. -/
theorem nextProducer_presenterStep
    {before after : Presenter}
    (stepped : presenterStep protocol before event = some after) :
    before.shared.nextProducer ≤ after.shared.nextProducer := by
  have counts : ∀ {first second : State}, Changes first second →
      first.nextProducer ≤ second.nextProducer := by
    intro first second changes
    induction changes with
    | refl => exact Nat.le_refl _
    | tail _ change ih =>
        exact ih.trans change.producersKept.counter
  rcases does_presenterStep protocol stepped with
    changes | ⟨done, middle, -, performs, changes⟩
  · exact counts changes
  · refine Nat.le_trans ?_ (counts changes)
    cases performs <;> exact Nat.le_refl _

/-- A source that is new was created in the step. -/
theorem created_presenterStep
    {before after : Presenter}
    (stepped : presenterStep protocol before event = some after)
    {key : SourceKey}
    (present : key ∈ after.shared.sources)
    (fresh : key ∉ before.shared.sources) :
    ∃ creation token now, before.deed? protocol event =
      some (.createSource key.producer creation token now) := by
  have stays : ∀ {first second : State}, Changes first second →
      key ∈ second.sources → key ∈ first.sources := by
    intro first second changes there
    induction changes with
    | refl => exact there
    | tail _ change ih =>
        obtain ⟨source, found⟩ := Option.isSome_iff_exists.mp
          ((OrderedMap.find?_isSome_iff _ _).mpr there)
        obtain ⟨old, isOld, -⟩ := change.sourcesKept.origin key source found
        exact ih (OrderedMap.mem_of_find?_eq_some isOld)
  rcases does_presenterStep protocol stepped with
    changes | ⟨done, middle, isDeed, performs, changes⟩
  · exact absurd (stays changes present) fresh
  · have entered := stays changes present
    cases performs with
    | createSource producer creation maximum token now valid room small unused =>
        rcases (OrderedMap.mem_insert _ _ _ _).mp entered with rfl | old
        · exact ⟨creation, token, now, isDeed⟩
        · exact absurd old fresh
    | destroySource key source found =>
        exact absurd ((OrderedMap.mem_erase _ _ _).mp entered).1 fresh
    | attachChannel token ticket source found
    | flushSource key source epoch causation found
    | endSource key source epoch causation found =>
        exact absurd ((OrderedMap.mem_modify _ _ _ _).mp entered) fresh
    | _ => exact absurd entered fresh

theorem ServedAlone.step
    {before after : Presenter}
    {event : PresenterEvent}
    (holds : ServedAlone before)
    (stepped : presenterStep protocol before event = some after) :
    ServedAlone after := by
  have threads := threads_presenterStep protocol stepped
  have counts := nextProducer_presenterStep protocol stepped
  constructor
  · intro first second producer one two
    rcases serves_before protocol threads one with
      old | ⟨own, isNext, -, -⟩
    · rcases serves_before protocol threads two with
        other | ⟨-, isNext, -, -⟩
      · exact holds.alone first second producer old other
      · have numbered := holds.known first producer old
        rw [isNext] at numbered
        exact absurd numbered (Nat.not_succ_le_self _)
    · rcases serves_before protocol threads two with
        other | ⟨same, -, -, -⟩
      · have numbered := holds.known second producer other
        rw [isNext] at numbered
        exact absurd numbered (Nat.not_succ_le_self _)
      · rw [own] at same
        exact Option.some.inj same
  · intro thread producer serves
    rcases serves_before protocol threads serves with
      old | ⟨-, -, isNext, -⟩
    · exact (holds.known thread producer old).trans counts
    · exact Nat.le_of_eq isNext.symm

/-! ## Runs -/

/-- What holds between the steps of a run. -/
structure Attended (presenter : Presenter) : Prop where
  scene : SceneIntegral presenter.shared
  transactions : presenter.shared.TransactionsOwn
  served : ServedAlone presenter
  settled : ∀ thread producer, presenter.Serves thread producer →
    presenter.shared.Settled producer

/-- A `CREATE_*` record is performed while its producer is registered. -/
def createsRegistered (presenter : Presenter) (event : PresenterEvent) : Bool :=
  match presenter.deed? protocol event with
  | some (.createSource producer _ _ _) =>
      decide (producer ∈ presenter.shared.producers)
  | _ => true

variable {presenter : Presenter}

/-- The thread of a step serves the producer that the step acts for. -/
theorem serves_actor
    (isActor : presenter.actor event = .serving producer) :
    ∃ thread, presenter.Serves thread producer := by
  unfold Presenter.actor at isActor
  split at isActor
  · rename_i thread _ _
    split at isActor
    · rename_i busy
      cases isActor
      exact ⟨thread, by unfold Presenter.Serves; rw [busy]; rfl⟩
    · cases isActor
  · split at isActor <;> cases isActor
  · cases isActor

/-- The thread that leaves a producer serves it no longer. -/
theorem leaving_actor
    {before after : Presenter}
    (stepped : presenterStep protocol before event = some after)
    (served : ServedAlone before)
    (isActor : before.actor event = .leaving producer)
    (thread : Nat) :
    ¬ after.Serves thread producer ∨
      ¬ before.Serves thread producer := by
  unfold Presenter.actor at isActor
  split at isActor
  · split at isActor <;> cases isActor
  · rename_i own
    obtain ⟨left, leaving, finished⟩ := leaves_presenterStep protocol stepped
    rw [leaving] at isActor
    cases isActor
    by_cases here : thread = own
    · left
      rw [here]
      unfold Presenter.Serves
      rw [finished]
      simp [Phase.serving?]
    · right
      intro serves
      refine here (served.alone thread own producer serves ?_)
      unfold Presenter.Serves
      rw [leaving]
      rfl
  · cases isActor

theorem Attended.step
    {before after : Presenter}
    {event : PresenterEvent}
    (holds : Attended before)
    (registered : createsRegistered protocol before event = true)
    (stepped : presenterStep protocol before event = some after) :
    Attended after := by
  have creates : ∀ key, key ∈ after.shared.sources →
      key ∉ before.shared.sources → key.producer ∈ before.shared.producers := by
    intro key present fresh
    obtain ⟨creation, token, now, isDeed⟩ :=
      created_presenterStep protocol stepped present fresh
    unfold createsRegistered at registered
    rw [isDeed] at registered
    exact of_decide_eq_true registered
  have threads := threads_presenterStep protocol stepped
  by_cases ingests : ∃ thread now writable,
      event = .ingest thread now writable
  · obtain ⟨thread, now, writable, rfl⟩ := ingests
    have still := still_ingest protocol stepped
    refine ⟨still.sceneIntegral holds.scene,
      still.transactionsOwn holds.transactions,
      holds.served.step protocol stepped, ?_⟩
    intro other producer serves
    rcases serves_before protocol threads serves with old | ⟨-, -, -, new⟩
    · exact still.settled (holds.settled other producer old)
    · exact .inl new
  · obtain ⟨middle, act, tame⟩ := acts_presenterStep protocol stepped
      fun thread now writable same => ingests ⟨thread, now, writable, same⟩
    have acting : ∀ producer, before.actor event = .serving producer →
        before.shared.Settled producer := by
      intro producer isActor
      obtain ⟨thread, serves⟩ := serves_actor isActor
      exact holds.settled thread producer serves
    refine ⟨tame.sceneIntegral ?_, tame.transactionsOwn ?_,
      holds.served.step protocol stepped, ?_⟩
    · refine holds.scene.act protocol holds.transactions act ?_
      intro key present fresh
      exact creates key ((tame.sources.mem_iff key).mpr present) fresh
    · exact holds.transactions.act protocol acting act
    · intro thread producer serves
      rcases serves_before protocol threads serves with old | ⟨-, -, -, new⟩
      · refine tame.settled ((holds.settled thread producer old).act protocol
          holds.transactions act ?_)
        intro isActor
        rcases leaving_actor protocol stepped holds.served isActor thread with
          gone | never
        · exact gone serves
        · exact never old
      · exact .inl new

theorem attended_start
    (config : Config)
    (events : Bool) : Attended (.start config events) := by
  have none : ∀ thread producer,
      ¬ (Presenter.start config events).Serves thread producer := by
    intro thread producer serves
    cases serves
  refine ⟨⟨⟨?_, ?_, ?_⟩, ?_⟩, ?_, ⟨?_, ?_⟩, ?_⟩
  · exact fun _ _ found => nomatch found
  · exact fun _ _ found => nomatch found
  · exact fun _ _ found => nomatch found
  · exact fun _ present => absurd present (OrderedMap.not_mem_empty _)
  · exact fun _ _ found => nomatch found
  · exact fun _ _ _ serves => absurd serves (none _ _)
  · exact fun _ _ serves => absurd serves (none _ _)
  · exact fun _ _ serves => absurd serves (none _ _)

theorem reachable_attended
    {config : Config}
    (reachable : (presenterMachine protocol config).Reachable
      (fun before event => createsRegistered protocol before event = true)
      presenter) :
    Attended presenter := by
  apply reachable.invariant
  · rintro start ⟨events, rfl⟩
    exact attended_start config events
  · intro before event after holds registered stepped
    exact holds.step protocol registered stepped

/-! ## Commits as a whole -/

/-- What a mutation does to the scene. -/
def Mutation.apply
    (nodes : Nodes) :
    Mutation → Nodes
  | .create node => nodes.insert node.key node
  | .update node => nodes.insert node.key node
  | .delete producer nodeId => nodes.erase ⟨producer, nodeId⟩

/-- A `COMMIT_TXN` leaves the scene as it is, or applies all mutations of its
transaction in their order. -/
def CommitsWhole
    (state : State)
    (producer : ProducerId)
    (parsed : Except String Envelope)
    (after : State) : Prop :=
  after.nodes = state.nodes ∨
    ∃ envelope transaction mutations, parsed = .ok envelope ∧
      envelope.transaction = some transaction ∧
      state.transactions.find? ⟨producer, transaction⟩ = some mutations ∧
      after.nodes = mutations.foldl Mutation.apply state.nodes

theorem applyMutation_ok
    {nodes after : Nodes}
    {mutation : Mutation}
    (applied : applyMutation protocol state producer nodes mutation =
      .ok after) :
    after = mutation.apply nodes := by
  have isKey : ∀ {node : SceneNode} {passed : Unit},
      validateNode protocol state producer node = .ok passed →
        (⟨producer, node.config.nodeId⟩ : ObjectKey) = node.key := by
    intro node passed valid
    rw [← (validateNode_ok protocol valid).1]
    rfl
  unfold applyMutation at applied
  split at applied
  · split at applied
    · cases applied
    · rename_i valid
      split at applied
      · cases applied
      · cases applied
        rw [isKey valid]
        rfl
  · split at applied
    · cases applied
    · rename_i valid
      split at applied
      · cases applied
        rw [isKey valid]
        rfl
      · cases applied
  · split at applied
    · cases applied
      rfl
    · cases applied

/-- By induction over the mutations. -/
theorem applyMutations_ok
    (mutations : List Mutation)
    {nodes after : Nodes}
    (applied : applyMutations protocol state producer nodes mutations =
      .ok after) :
    after = mutations.foldl Mutation.apply nodes := by
  induction mutations generalizing nodes with
  | nil =>
      cases applied
      rfl
  | cons mutation rest ih =>
      unfold applyMutations at applied
      split at applied
      · cases applied
      · rename_i changed first
        rw [List.foldl_cons, ← applyMutation_ok protocol first]
        exact ih applied

theorem commitsWhole_commitTxn
    (session : Session)
    (state : State)
    (parsed : Except String Envelope) :
    CommitsWhole state session.producer parsed
      (commitTxn protocol session state parsed).1 := by
  unfold commitTxn
  split
  · exact .inl rfl
  · rename_i envelope
    split
    · exact .inl rfl
    · rename_i transaction named
      dsimp only
      split
      · exact .inl rfl
      · rename_i mutations opened
        have answered := (quiet_respondTo session
          (applyTransaction protocol
            { state with
              transactions := state.transactions.erase
                ⟨session.producer, transaction⟩ }
            session.producer mutations) (.presented envelope.request)).nodes
        unfold CommitsWhole
        rw [answered]
        unfold applyTransaction
        split
        · exact .inl rfl
        · rename_i nodes applied
          have whole := applyMutations_ok protocol mutations applied
          split
          · exact .inl rfl
          · split
            · exact .inl rfl
            · have told := (quiet_advanceScene protocol
                { state with
                  transactions := state.transactions.erase
                    ⟨session.producer, transaction⟩
                  nodes := nodes } session.producer .producerCommit).nodes
              refine .inr ⟨envelope, transaction, mutations, rfl, named, opened,
                ?_⟩
              rw [← whole]
              dsimp only
              split
              · exact told
              · exact told

/-- The scene is whole in every run that performs a `CREATE_*` record only
while its producer is registered, and a commit takes effect as a whole. -/
theorem scene_integrity
    {config : Config}
    {presenter : Presenter}
    (reachable : (presenterMachine protocol config).Reachable
      (fun before event => createsRegistered protocol before event = true)
      presenter) :
    SceneIntegral presenter.shared ∧
      ∀ thread circumstance writable producer record parsed after,
        presenter.phase? thread =
            some (.busy producer (.check [] record)) →
        record.body = .commitTxn parsed →
        presenterStep protocol presenter (.run thread circumstance writable) =
            some after →
        CommitsWhole presenter.shared producer parsed after.shared := by
  refine ⟨(reachable_attended protocol reachable).scene, ?_⟩
  intro thread circumstance writable producer record parsed after busy isCommit
    stepped
  rw [shared_run protocol busy stepped]
  simp only [runTask, perform, isCommit]
  exact commitsWhole_commitTxn protocol
    ⟨producer, rootContext producer, writable⟩ presenter.shared parsed

/-- Producer 1 shows image 3 at anchor 5, and hangs up. -/
def leavingPoster :
    List PresenterEvent :=
  [.observeMarker 1 ⟨0, 5, 7⟩ 2 3] ++
    controlling 0 (.beginTxn (.ok ⟨1, some 4, none⟩)) 1 ++
    controlling 6
      (.createNode (.ok (⟨2, some 4, none⟩,
        { nodeId := 6
          contextId := rootContext 1
          sourceId := 3
          anchorId := some 5
          x := 0
          y := 0
          width := 5
          height := 5
          zIndex := 0
          clip := none }))) 1 ++
    controlling 0 (.commitTxn (.ok ⟨3, some 4, none⟩)) 1 ++
    [.hangUp 0, .leave 0]

/-- Node 6 stays as a poster of image 3 when its producer is gone. -/
theorem scene_integrity_poster :
    let protocol := wellFormedProtocol fun _ _ => true
    ∃ presenter,
      runEvents protocol (createsRegistered protocol)
          (connecting ++ creatingImage ++ receivingImage ++ leavingPoster) =
            some presenter ∧
        presenter.shared.producers.size = 0 ∧
        presenter.shared.nodes.keys = [⟨1, 6⟩] ∧
        SceneIntegral presenter.shared ∧
        ∀ thread circumstance writable producer record parsed after,
          presenter.phase? thread =
              some (.busy producer (.check [] record)) →
          record.body = .commitTxn parsed →
          presenterStep protocol presenter (.run thread circumstance writable) =
              some after →
          CommitsWhole presenter.shared producer parsed after.shared := by
  intro protocol
  have leaves : (runEvents protocol (createsRegistered protocol)
      (connecting ++ creatingImage ++ receivingImage ++ leavingPoster)).map
        (fun presenter => (presenter.shared.producers.size,
          presenter.shared.nodes.keys)) = some (0, [⟨1, 6⟩]) := by
    decide +kernel
  obtain ⟨presenter, followed, holds⟩ := Option.map_eq_some_iff.mp leaves
  obtain ⟨producers, nodes⟩ := Prod.mk.inj holds
  exact ⟨presenter, followed, producers, nodes, scene_integrity protocol
    (reachable_runEvents protocol (fun _ _ checks => checks) _ followed)⟩

/-- The record that creates image 3 was read before its pane was revoked, and
is performed after it: the source has neither a producer nor a node. -/
theorem created_source_is_orphan :
    let protocol := wellFormedProtocol fun _ _ => true
    ∃ presenter,
      (presenterMachine protocol .standard).Reachable (fun _ _ => True)
          presenter ∧
        presenter.shared.sources.keys = [⟨1, 3⟩] ∧
        presenter.shared.producers.keys = [] ∧
        presenter.shared.nodes.keys = [] ∧
        ¬ SceneIntegral presenter.shared := by
  intro protocol
  have leaves : (runEvents protocol (fun _ _ => true)
      (connecting ++ creatingImage.take 1 ++ [.revoke 1] ++
        creatingImage.drop 1)).map (fun presenter =>
          (presenter.shared.sources.keys, presenter.shared.producers.keys,
            presenter.shared.nodes.keys)) = some ([⟨1, 3⟩], [], []) := by
    decide +kernel
  obtain ⟨presenter, followed, holds⟩ := Option.map_eq_some_iff.mp leaves
  obtain ⟨sources, rest⟩ := Prod.mk.inj holds
  obtain ⟨producers, nodes⟩ := Prod.mk.inj rest
  refine ⟨presenter, reachable_runEvents protocol (fun _ _ _ => trivial) _
    followed, sources, producers, nodes, ?_⟩
  intro whole
  have present : ⟨1, 3⟩ ∈ presenter.shared.sources := by
    rw [OrderedMap.mem_def, sources]
    exact List.mem_singleton_self _
  have gone : (1 : ProducerId) ∉ presenter.shared.producers := by
    rw [OrderedMap.mem_def, producers]
    exact List.not_mem_nil
  obtain ⟨key, node, found, -⟩ := whole.referenced ⟨1, 3⟩ present gone
  have listed := OrderedMap.mem_of_find?_eq_some found
  rw [OrderedMap.mem_def, nodes] at listed
  exact List.not_mem_nil listed

end Media
end Vvmux
