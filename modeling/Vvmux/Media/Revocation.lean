import Vvmux.Media.Steps

/-!
# Revocation of panes

A revoked pane loses its capability, its producers with all they hold, and its
metrics, and without metrics no producer is admitted to it.  A control thread
whose record was read before does not learn of the revocation.
-/

namespace Vvmux
namespace Media

open Library

variable (protocol : Protocol)

/-- Nothing is left of a pane: no producer, no node, and no ticket, transaction
or source of a producer that was admitted to it. -/
structure PaneGone (state : State) (pane : PaneId) : Prop where
  producers : ∀ producerId producer,
    state.producers.find? producerId = some producer → producer.pane ≠ pane
  nodes : ∀ key node, state.nodes.find? key = some node → node.pane ≠ pane
  tickets : ∀ token ticket, state.tickets.find? token = some ticket →
    state.admitted.find? ticket.source.producer ≠ some pane
  transactions : ∀ key, key ∈ state.transactions →
    state.admitted.find? key.producer ≠ some pane
  sources : ∀ key, key ∈ state.sources →
    state.admitted.find? key.producer ≠ some pane

/-- Every revoked pane is gone. -/
def RevokedGone (state : State) : Prop :=
  ∀ pane ∈ state.revoked, PaneGone state pane

/-- The session tells no sizes of a revoked pane. -/
def updatesLivePane (presenter : Presenter) (event : PresenterEvent) : Bool :=
  match event with
  | .updateMetrics pane _ _ _ _ => decide (pane ∉ presenter.shared.revoked)
  | _ => true

/-- A source is created, and a transaction begun, for a producer that is still
registered. -/
def servesRegistered (presenter : Presenter) (event : PresenterEvent) : Bool :=
  match presenter.deed? protocol event with
  | some (.createSource producerId _ _ _) =>
      decide (producerId ∈ presenter.shared.producers)
  | some (.beginTransaction key) =>
      decide (key.producer ∈ presenter.shared.producers)
  | _ => true

/-! ## The invariant -/

/-- The node a buffered mutation puts into the scene is of its transaction's
producer, and of the pane that producer was admitted to. -/
def State.Buffers
    (state : State)
    (key : ObjectKey)
    (mutation : Mutation) : Prop :=
  ∀ node, mutation.node? = some node →
    node.producer = key.producer ∧
      state.admitted.find? key.producer = some node.pane

/-- The panes of everything are those of admissions, and nothing that can
still act is of a revoked pane. -/
structure PanesKept (state : State) : Prop where
  producers : ∀ producerId producer,
    state.producers.find? producerId = some producer →
      state.admitted.find? producerId = some producer.pane
  known : ∀ producerId, producerId ∈ state.admitted →
    producerId ≤ state.nextProducer
  sources : ∀ key, key ∈ state.sources → key.producer ∈ state.admitted
  nodes : ∀ key node, state.nodes.find? key = some node →
    state.admitted.find? node.producer = some node.pane
  transactions : ∀ key mutations,
    state.transactions.find? key = some mutations →
      key.producer ∈ state.producers ∧
        ∀ mutation ∈ mutations, state.Buffers key mutation
  tickets : ∀ token ticket, state.tickets.find? token = some ticket →
    ticket.source.producer ∈ state.producers
  metricsGone : ∀ pane ∈ state.revoked, pane ∉ state.metrics
  producersGone : ∀ pane ∈ state.revoked, ∀ producerId producer,
    state.producers.find? producerId = some producer → producer.pane ≠ pane
  nodesGone : ∀ pane ∈ state.revoked, ∀ key node,
    state.nodes.find? key = some node → node.pane ≠ pane
  sourcesGone : ∀ pane ∈ state.revoked, ∀ key, key ∈ state.sources →
    state.admitted.find? key.producer ≠ some pane

variable {state before after : State} {producerId : ProducerId}
  {key : ObjectKey}

/-- A registered producer was admitted to a pane that is not revoked. -/
theorem PanesKept.registered
    (kept : PanesKept state)
    (present : producerId ∈ state.producers) :
    ∃ pane, state.admitted.find? producerId = some pane ∧
      pane ∉ state.revoked := by
  obtain ⟨producer, found⟩ := Option.isSome_iff_exists.mp
    ((OrderedMap.find?_isSome_iff _ _).mpr present)
  refine ⟨producer.pane, kept.producers producerId producer found, ?_⟩
  intro revoked
  exact kept.producersGone producer.pane revoked producerId producer found rfl

/-- What a registered producer holds is of no revoked pane. -/
theorem PanesKept.not_revoked
    (kept : PanesKept state)
    (present : producerId ∈ state.producers)
    {pane : PaneId}
    (revoked : pane ∈ state.revoked) :
    state.admitted.find? producerId ≠ some pane := by
  intro admitted
  obtain ⟨live, isLive, unrevoked⟩ := kept.registered present
  rw [isLive] at admitted
  cases admitted
  exact unrevoked revoked

theorem PanesKept.revokedGone (kept : PanesKept state) : RevokedGone state := by
  intro pane revoked
  constructor
  case producers => exact kept.producersGone pane revoked
  case nodes => exact kept.nodesGone pane revoked
  case tickets =>
    exact fun token ticket found =>
      kept.not_revoked (kept.tickets token ticket found) revoked
  case transactions =>
    intro key present
    obtain ⟨mutations, found⟩ := Option.isSome_iff_exists.mp
      ((OrderedMap.find?_isSome_iff _ _).mpr present)
    exact kept.not_revoked (kept.transactions key mutations found).1 revoked
  case sources => exact kept.sourcesGone pane revoked

/-! ## Changes -/

/-- Changes that leave the tables of panes alone. -/
theorem PanesKept.keep
    (kept : PanesKept before)
    (producers : before.producers.Related Producer.SamePane after.producers)
    (sources : ∀ key, key ∈ after.sources → key ∈ before.sources)
    (nodes : ∀ key node, after.nodes.find? key = some node →
      ∃ old, before.nodes.find? key = some old ∧
        node.producer = old.producer ∧ node.pane = old.pane)
    (transactions : ∀ key mutations,
      after.transactions.find? key = some mutations →
        before.transactions.find? key = some mutations)
    (tickets : ∀ token ticket, after.tickets.find? token = some ticket →
      before.tickets.find? token = some ticket)
    (metrics : ∀ pane, pane ∈ after.metrics → pane ∈ before.metrics)
    (counter : before.nextProducer ≤ after.nextProducer)
    (admitted : after.admitted = before.admitted)
    (revoked : after.revoked = before.revoked) : PanesKept after where
  producers := by
    intro producerId producer found
    obtain ⟨old, there, same⟩ := producers.exists_before found
    rw [admitted, same]
    exact kept.producers producerId old there
  known := by
    rw [admitted]
    exact fun producerId present =>
      (kept.known producerId present).trans counter
  sources := by
    rw [admitted]
    exact fun key present => kept.sources key (sources key present)
  nodes := by
    intro key node found
    obtain ⟨old, there, producer, pane⟩ := nodes key node found
    rw [admitted, producer, pane]
    exact kept.nodes key old there
  transactions := by
    intro key mutations found
    obtain ⟨registered, buffers⟩ :=
      kept.transactions key mutations (transactions key mutations found)
    refine ⟨(producers.mem_iff _).mpr registered, ?_⟩
    unfold State.Buffers
    rw [admitted]
    exact buffers
  tickets := fun token ticket found =>
    (producers.mem_iff _).mpr
      (kept.tickets token ticket (tickets token ticket found))
  metricsGone := by
    rw [revoked]
    exact fun pane gone present =>
      kept.metricsGone pane gone (metrics pane present)
  producersGone := by
    rw [revoked]
    intro pane gone producerId producer found
    obtain ⟨old, there, same⟩ := producers.exists_before found
    rw [same]
    exact kept.producersGone pane gone producerId old there
  nodesGone := by
    rw [revoked]
    intro pane gone key node found
    obtain ⟨old, there, -, same⟩ := nodes key node found
    rw [same]
    exact kept.nodesGone pane gone key old there
  sourcesGone := by
    rw [revoked, admitted]
    exact fun pane gone key present =>
      kept.sourcesGone pane gone key (sources key present)

/-- Rewriting the sources leaves the panes alone. -/
theorem PanesKept.withSources
    (kept : PanesKept before)
    (sources : ∀ key, key ∈ after.sources → key ∈ before.sources)
    (nodes : ∀ key node, after.nodes.find? key = some node →
      before.nodes.find? key = some node)
    (transactions : ∀ key mutations,
      after.transactions.find? key = some mutations →
        before.transactions.find? key = some mutations)
    (producers : after.producers = before.producers)
    (tickets : after.tickets = before.tickets)
    (metrics : after.metrics = before.metrics)
    (counter : before.nextProducer ≤ after.nextProducer)
    (admitted : after.admitted = before.admitted)
    (revoked : after.revoked = before.revoked) : PanesKept after := by
  refine kept.keep ?_ sources ?_ transactions ?_ ?_ counter admitted revoked
  · rw [producers]
    exact .refl Producer.SamePane.refl _
  · exact fun key node found => ⟨node, nodes key node found, rfl, rfl⟩
  · rw [tickets]
    exact fun _ _ found => found
  · rw [metrics]
    exact fun _ present => present

/-- A producer that is there has been admitted. -/
theorem PanesKept.admitted
    (kept : PanesKept state)
    (present : producerId ∈ state.producers) : producerId ∈ state.admitted := by
  obtain ⟨pane, isPane, -⟩ := kept.registered present
  exact OrderedMap.mem_of_find?_eq_some isPane

/-- The next producer's number has not been admitted. -/
theorem PanesKept.fresh
    (kept : PanesKept state) : state.nextProducer + 1 ∉ state.admitted :=
  fun present => Nat.not_succ_le_self _ (kept.known _ present)

section

variable (kept : PanesKept state)
include kept

/-- A commit puts nodes of live producers into the scene. -/
theorem PanesKept.commit
    {mutations : List Mutation}
    {nodes : Nodes}
    (opened : state.transactions.find? key = some mutations)
    (commits : Commits state key.producer mutations nodes) :
    PanesKept
      { state with
        transactions := state.transactions.erase key
        nodes := nodes } := by
  obtain ⟨registered, buffers⟩ := kept.transactions key mutations opened
  have placed : ∀ nodeKey node, nodes.find? nodeKey = some node →
      state.nodes.find? nodeKey = some node ∨
        (node.producer = key.producer ∧
          state.admitted.find? key.producer = some node.pane) := by
    intro nodeKey node found
    rcases commits nodeKey node found with
      old | ⟨-, -, -, mutation, listed, puts⟩
    · exact .inl old
    · exact .inr (buffers mutation listed node puts)
  constructor
  case producers => exact kept.producers
  case known => exact kept.known
  case sources => exact kept.sources
  case nodes =>
    intro nodeKey node found
    rcases placed nodeKey node found with old | ⟨owner, pane⟩
    · exact kept.nodes nodeKey node old
    · rw [owner]
      exact pane
  case transactions =>
    intro other buffered found
    simp only [OrderedMap.find?_erase] at found
    split at found
    · cases found
    · exact kept.transactions other buffered found
  case tickets => exact kept.tickets
  case metricsGone => exact kept.metricsGone
  case producersGone => exact kept.producersGone
  case nodesGone =>
    intro pane revoked nodeKey node found
    rcases placed nodeKey node found with old | ⟨-, isPane⟩
    · exact kept.nodesGone pane revoked nodeKey node old
    · intro same
      rw [same] at isPane
      exact kept.not_revoked registered revoked isPane
  case sourcesGone => exact kept.sourcesGone

/-- The transactions and tickets of a producer go with it. -/
theorem PanesKept.dropProducer
    (producerId : ProducerId) : PanesKept (state.dropProducer producerId) := by
  have still : ∀ query producer,
      (state.dropProducer producerId).producers.find? query = some producer →
        state.producers.find? query = some producer := by
    intro query producer found
    simp only [State.dropProducer, OrderedMap.find?_erase] at found
    split at found
    · cases found
    · exact found
  have stays : ∀ query, query ∈ state.producers → query ≠ producerId →
      query ∈ (state.dropProducer producerId).producers := by
    intro query present different
    simpa [State.dropProducer] using ⟨present, different⟩
  constructor
  case producers =>
    exact fun query producer found =>
      kept.producers query producer (still query producer found)
  case known => exact kept.known
  case sources => exact kept.sources
  case nodes => exact kept.nodes
  case transactions =>
    intro key mutations found
    simp only [State.dropProducer, OrderedMap.find?_filter] at found
    obtain ⟨there, different⟩ := Option.filter_eq_some_iff.mp found
    obtain ⟨registered, buffers⟩ := kept.transactions key mutations there
    exact ⟨stays _ registered (by simpa using different), buffers⟩
  case tickets =>
    intro token ticket found
    simp only [State.dropProducer, OrderedMap.find?_filter] at found
    obtain ⟨there, different⟩ := Option.filter_eq_some_iff.mp found
    exact stays _ (kept.tickets token ticket there) (by simpa using different)
  case metricsGone => exact kept.metricsGone
  case producersGone =>
    exact fun pane revoked query producer found =>
      kept.producersGone pane revoked query producer
        (still query producer found)
  case nodesGone => exact kept.nodesGone
  case sourcesGone => exact kept.sourcesGone

/-- A buffered node is on its producer's pane. -/
theorem PanesKept.bufferMutation
    {mutation : Mutation}
    (owned : ∀ node, mutation.node? = some node →
      node.producer = key.producer ∧
        ∃ producer, state.producers.find? key.producer = some producer ∧
          node.pane = producer.pane) :
    PanesKept (state.bufferMutation key mutation) := by
  have buffers : state.Buffers key mutation := by
    intro node puts
    obtain ⟨owner, producer, found, pane⟩ := owned node puts
    refine ⟨owner, ?_⟩
    rw [pane]
    exact kept.producers key.producer producer found
  refine { kept with transactions := ?_ }
  intro query mutations found
  simp only [State.bufferMutation, OrderedMap.find?_modify] at found
  split at found
  · rename_i here
    obtain ⟨opened, there, extended⟩ := Option.map_eq_some_iff.mp found
    rw [here] at there ⊢
    obtain ⟨registered, buffered⟩ := kept.transactions key opened there
    refine ⟨registered, ?_⟩
    rw [← extended]
    intro other listed
    rcases List.mem_append.mp listed with old | new
    · exact buffered other old
    · rw [List.mem_singleton.mp new]
      exact buffers
  · exact kept.transactions query mutations found

/-- A producer is admitted under a new number to a pane with sizes, so to none
that is revoked. -/
theorem PanesKept.enterProducer
    (producer : Producer)
    (sized : producer.pane ∈ state.metrics) :
    PanesKept
      ({ state with nextProducer := state.nextProducer + 1 }.enterProducer
        (state.nextProducer + 1) producer) := by
  have fresh := kept.fresh
  have other : ∀ producerId, producerId ∈ state.admitted →
      (state.admitted.insert (state.nextProducer + 1) producer.pane).find?
        producerId = state.admitted.find? producerId := by
    intro producerId present
    rw [OrderedMap.find?_insert, if_neg]
    intro same
    rw [same] at present
    exact fresh present
  have known : ∀ {producerId pane},
      state.admitted.find? producerId = some pane →
        (state.admitted.insert (state.nextProducer + 1) producer.pane).find?
          producerId = some pane := by
    intro producerId pane found
    rw [other producerId (OrderedMap.mem_of_find?_eq_some found)]
    exact found
  have live : producer.pane ∉ state.revoked :=
    fun revoked => kept.metricsGone producer.pane revoked sized
  constructor
  case producers =>
    intro producerId runtime found
    simp only [State.enterProducer, OrderedMap.find?_insert] at found ⊢
    split at found
    · rename_i new
      cases found
      rw [if_pos new]
    · rename_i old
      rw [if_neg old]
      exact kept.producers producerId runtime found
  case known =>
    intro producerId present
    rcases (OrderedMap.mem_insert _ _ _ _).mp present with new | old
    · exact Nat.le_of_eq new
    · exact (kept.known producerId old).trans (Nat.le_succ _)
  case sources =>
    exact fun key present =>
      (OrderedMap.mem_insert _ _ _ _).mpr (.inr (kept.sources key present))
  case nodes => exact fun key node found => known (kept.nodes key node found)
  case transactions =>
    intro key mutations found
    obtain ⟨registered, buffers⟩ := kept.transactions key mutations found
    refine ⟨(OrderedMap.mem_insert _ _ _ _).mpr (.inr registered), ?_⟩
    intro mutation listed node puts
    obtain ⟨owner, pane⟩ := buffers mutation listed node puts
    exact ⟨owner, known pane⟩
  case tickets =>
    exact fun token ticket found =>
      (OrderedMap.mem_insert _ _ _ _).mpr (.inr (kept.tickets token ticket found))
  case metricsGone => exact kept.metricsGone
  case producersGone =>
    intro pane revoked producerId runtime found
    simp only [State.enterProducer, OrderedMap.find?_insert] at found
    split at found
    · cases found
      exact fun same => live (same ▸ revoked)
    · exact kept.producersGone pane revoked producerId runtime found
  case nodesGone => exact kept.nodesGone
  case sourcesGone =>
    intro pane revoked key present
    show (state.admitted.insert (state.nextProducer + 1) producer.pane).find?
      key.producer ≠ some pane
    rw [other key.producer (kept.sources key present)]
    exact kept.sourcesGone pane revoked key present

/-- A pane that is given up has neither producers nor nodes, and its sources
would be orphans. -/
theorem PanesKept.forgetPane
    (pane : PaneId)
    (producers : ∀ producerId producer,
      state.producers.find? producerId = some producer → producer.pane ≠ pane)
    (nodes : ∀ key node,
      state.nodes.find? key = some node → node.pane ≠ pane)
    (sheltered : ∀ key, key ∈ state.sources → state.orphaned key = false) :
    PanesKept (state.forgetPane pane) := by
  have sources : ∀ key, key ∈ state.sources →
      state.admitted.find? key.producer ≠ some pane := by
    intro key present admitted
    rcases shown_of_not_orphaned (sheltered key present) with
      registered | ⟨nodeKey, node, found, shows⟩
    · obtain ⟨producer, found⟩ := Option.isSome_iff_exists.mp
        ((OrderedMap.find?_isSome_iff _ _).mpr registered)
      have isPane := kept.producers key.producer producer found
      rw [admitted] at isPane
      exact producers key.producer producer found
        (Option.some.inj isPane).symm
    · have isPane := kept.nodes nodeKey node found
      rw [← shows] at admitted
      exact nodes nodeKey node found
        (Option.some.inj (isPane.symm.trans admitted))
  refine { kept with
    metricsGone := ?_, producersGone := ?_, nodesGone := ?_,
    sourcesGone := ?_ }
  · intro other revoked present
    obtain ⟨sized, different⟩ := (OrderedMap.mem_erase _ _ _).mp present
    rcases List.mem_cons.mp revoked with same | earlier
    · exact different same
    · exact kept.metricsGone other earlier sized
  · intro other revoked producerId producer found
    rcases List.mem_cons.mp revoked with same | earlier
    · rw [same]
      exact producers producerId producer found
    · exact kept.producersGone other earlier producerId producer found
  · intro other revoked key node found
    rcases List.mem_cons.mp revoked with same | earlier
    · rw [same]
      exact nodes key node found
    · exact kept.nodesGone other earlier key node found
  · intro other revoked key present
    rcases List.mem_cons.mp revoked with same | earlier
    · rw [same]
      exact sources key present
    · exact kept.sourcesGone other earlier key present

end

theorem PanesKept.change
    (kept : PanesKept before)
    (change : Change before after) : PanesKept after := by
  have unchanged : ∀ {state : State}, state.producers = before.producers →
      (∀ key, key ∈ state.sources → key ∈ before.sources) →
      (∀ key node, state.nodes.find? key = some node →
        before.nodes.find? key = some node) →
      (∀ key mutations, state.transactions.find? key = some mutations →
        before.transactions.find? key = some mutations) →
      state.tickets = before.tickets → state.metrics = before.metrics →
      before.nextProducer ≤ state.nextProducer →
      state.admitted = before.admitted → state.revoked = before.revoked →
      PanesKept state := by
    intro state producers sources nodes transactions
    exact kept.withSources sources nodes transactions producers
  have rewritten : ∀ (key : SourceKey) (change : Source → Source),
      PanesKept (before.updateSource key change) := by
    intro key change
    refine unchanged rfl ?_ (fun _ _ found => found) (fun _ _ found => found)
      rfl rfl (Nat.le_refl _) rfl rfl
    intro query present
    exact (OrderedMap.mem_modify _ _ _ _).mp present
  cases change with
  | quiet quiet =>
      refine kept.keep (quiet.producers.weaken fun _ _ same => same.pane)
        ?_ ?_ ?_ ?_ ?_ (Nat.le_of_eq quiet.nextProducer.symm) quiet.admitted
        quiet.revoked
      · exact fun key present => (quiet.sources.mem_iff key).mp present
      · rw [quiet.nodes]
        exact fun key node found => ⟨node, found, rfl, rfl⟩
      · rw [quiet.transactions]
        exact fun _ _ found => found
      · rw [quiet.tickets]
        exact fun _ _ found => found
      · rw [quiet.metrics]
        exact fun _ present => present
  | charge key source bytes found affords => exact rewritten _ _
  | overflow key source after bytes found affords beyond only =>
      exact rewritten _ _
  | settle key source projected bytes found enough packets =>
      exact rewritten _ _
  | retain key source body found static room =>
      have same := rewritten key fun source => source.retain (some body)
      exact { same with }
  | pruneSource key source found orphaned =>
      refine unchanged rfl ?_ (fun _ _ found => found)
        (fun _ _ found => found) rfl rfl (Nat.le_refl _) rfl rfl
      intro query present
      exact ((OrderedMap.mem_erase _ _ _).mp present).1
  | filterNodes keep =>
      refine unchanged rfl (fun _ present => present) ?_
        (fun _ _ found => found) rfl rfl (Nat.le_refl _) rfl rfl
      intro key node found
      simp only [OrderedMap.find?_filter] at found
      exact (Option.filter_eq_some_iff.mp found).1
  | placeNodes nodes related =>
      refine kept.keep (.refl Producer.SamePane.refl _)
        (fun _ present => present) ?_ (fun _ _ found => found)
        (fun _ _ found => found) (fun _ present => present) (Nat.le_refl _)
        rfl rfl
      intro key node found
      obtain ⟨old, there, placed⟩ := related.exists_before found
      exact ⟨old, there, placed.producer, placed.pane⟩
  | commit key mutations nodes opened commits few =>
      exact kept.commit opened commits
  | dropProducer producerId => exact kept.dropProducer producerId
  | closeTransaction key =>
      refine unchanged rfl (fun _ present => present)
        (fun _ _ found => found) ?_ rfl rfl (Nat.le_refl _) rfl rfl
      intro query mutations found
      simp only [OrderedMap.find?_erase] at found
      split at found
      · cases found
      · exact found
  | bufferMutation key mutation owned => exact kept.bufferMutation owned
  | registerWait producerId producer request wait found few =>
      exact kept.keep
        (OrderedMap.related_modify Producer.SamePane.refl _ _ _ fun _ _ => rfl)
        (fun _ present => present) (fun _ node found => ⟨node, found, rfl, rfl⟩)
        (fun _ _ found => found) (fun _ _ found => found)
        (fun _ present => present) (Nat.le_refl _) rfl rfl
  | placeAnchors producers related =>
      exact kept.keep (related.weaken fun _ _ moved => moved.pane)
        (fun _ present => present) (fun _ node found => ⟨node, found, rfl, rfl⟩)
        (fun _ _ found => found) (fun _ _ found => found)
        (fun _ present => present) (Nat.le_refl _) rfl rfl
  | numberProducer =>
      exact unchanged rfl (fun _ present => present) (fun _ _ found => found)
        (fun _ _ found => found) rfl rfl (Nat.le_succ _) rfl rfl
  | enterProducer producer display known anchors seen waits =>
      exact kept.enterProducer producer (OrderedMap.mem_of_find?_eq_some known)
  | forgetPane pane producers nodes sheltered =>
      exact kept.forgetPane pane producers nodes sheltered
  | _ =>
      exact unchanged rfl (fun _ present => present) (fun _ _ found => found)
        (fun _ _ found => found) rfl rfl (Nat.le_refl _) rfl rfl

/-! ## Deeds -/

/-- A source and its ticket of a registered producer. -/
theorem PanesKept.enterSource
    (kept : PanesKept state)
    (key : SourceKey)
    {ticket : Ticket}
    (registered : key.producer ∈ state.producers)
    (own : ticket.source = key)
    (source : Source)
    (token : Nat) : PanesKept (state.enterSource key source token ticket) := by
  refine { kept with sources := ?_, tickets := ?_, sourcesGone := ?_ }
  · intro query present
    rcases (OrderedMap.mem_insert _ _ _ _).mp present with new | old
    · rw [new]
      exact kept.admitted registered
    · exact kept.sources query old
  · intro query issued found
    simp only [State.enterSource, OrderedMap.find?_insert] at found
    split at found
    · cases found
      rw [own]
      exact registered
    · exact kept.tickets query issued found
  · intro pane revoked query present
    rcases (OrderedMap.mem_insert _ _ _ _).mp present with new | old
    · rw [new]
      exact kept.not_revoked registered revoked
    · exact kept.sourcesGone pane revoked query old

/-- A transaction of a registered producer. -/
theorem PanesKept.beginTransaction
    (kept : PanesKept state)
    (registered : key.producer ∈ state.producers) :
    PanesKept
      { state with transactions := state.transactions.insert key [] } := by
  refine { kept with transactions := ?_ }
  intro query mutations found
  simp only [OrderedMap.find?_insert] at found
  split at found
  · rename_i new
    cases found
    rw [new]
    exact ⟨registered, fun mutation listed => by cases listed⟩
  · exact kept.transactions query mutations found

variable {presenter : Presenter}

/-- A deed of a producer that is still registered, or of a pane that is not
revoked. -/
theorem PanesKept.deed
    (kept : PanesKept presenter.shared)
    {event : PresenterEvent}
    {done : Deed}
    (live : updatesLivePane presenter event = true)
    (serves : servesRegistered protocol presenter event = true)
    (isDeed : presenter.deed? protocol event = some done)
    (performs : Performs protocol presenter.shared done after) :
    PanesKept after := by
  have rewritten : ∀ (key : SourceKey) (change : Source → Source),
      PanesKept (presenter.shared.updateSource key change) := by
    intro key change
    refine kept.withSources ?_ (fun _ _ found => found)
      (fun _ _ found => found) rfl rfl rfl (Nat.le_refl _) rfl rfl
    exact fun query present => (OrderedMap.mem_modify _ _ _ _).mp present
  unfold servesRegistered at serves
  rw [isDeed] at serves
  cases performs with
  | insertMetrics pane display =>
      have isUpdate := deedOf protocol isDeed
      cases isUpdate with
      | insertMetrics pane columns rows cellWidth cellHeight =>
          have unrevoked : pane ∉ presenter.shared.revoked :=
            of_decide_eq_true live
          refine { kept with metricsGone := ?_ }
          intro other revoked present
          rcases (OrderedMap.mem_insert _ _ _ _).mp present with new | old
          · rw [new] at revoked
            exact unrevoked revoked
          · exact kept.metricsGone other revoked old
      | perform thread circumstance writable producer record deed busy deeds =>
          cases recordDeed deeds
  | beginTransaction key =>
      exact kept.beginTransaction (of_decide_eq_true serves)
  | registerAnchor producerId producer marker place found accepted =>
      exact kept.keep
        (OrderedMap.related_modify Producer.SamePane.refl _ _ _ fun _ _ => rfl)
        (fun _ present => present) (fun _ node found => ⟨node, found, rfl, rfl⟩)
        (fun _ _ found => found) (fun _ _ found => found)
        (fun _ present => present) (Nat.le_refl _) rfl rfl
  | createSource producerId creation maximum token now valid room small fresh =>
      have registered : producerId ∈ presenter.shared.producers :=
        of_decide_eq_true serves
      exact kept.enterSource (creation.key producerId) registered rfl _ token
  | destroySource key source found =>
      refine kept.withSources ?_ ?_ (fun _ _ found => found) rfl rfl rfl
        (Nat.le_refl _) rfl rfl
      · exact fun query present => ((OrderedMap.mem_erase _ _ _).mp present).1
      · intro query node there
        simp only [OrderedMap.find?_filter] at there
        exact (Option.filter_eq_some_iff.mp there).1
  | presentTicket token ticket found =>
      refine kept.keep (.refl Producer.SamePane.refl _)
        (fun _ present => present) (fun _ node found => ⟨node, found, rfl, rfl⟩)
        (fun _ _ found => found) ?_ (fun _ present => present) (Nat.le_refl _)
        rfl rfl
      intro query other there
      simp only [OrderedMap.find?_erase] at there
      split at there
      · cases there
      · exact there
  | attachChannel token ticket source found
  | flushSource key source epoch causation found
  | endSource key source epoch causation found => exact rewritten _ _

/-! ## Runs -/

theorem panesKept_start
    (config : Config)
    (events : Bool) : PanesKept (.start config events) := by
  constructor <;> simp [State.start]

/-- What a run holds that keeps both guards. -/
theorem reachable_panesKept
    {config : Config}
    (reachable : (presenterMachine protocol config).Reachable
      (fun before event => updatesLivePane before event = true ∧
        servesRegistered protocol before event = true)
      presenter) :
    PanesKept presenter.shared := by
  apply reachable_shared protocol _ _ _ reachable
  · exact fun events => panesKept_start config events
  · exact fun before after kept change => kept.change change
  · intro before event done after kept guards isDeed performs
    exact kept.deed protocol guards.1 guards.2 isDeed performs

/-- Revocation is final in every run that creates sources and begins
transactions only for producers that are still registered. -/
theorem revocation_final
    {config : Config}
    {presenter : Presenter}
    (reachable : (presenterMachine protocol config).Reachable
      (fun before event => updatesLivePane before event = true ∧
        servesRegistered protocol before event = true)
      presenter) :
    RevokedGone presenter.shared :=
  (reachable_panesKept protocol reachable).revokedGone

/-- Producer 1 holds an image and its ticket, and loses both with its pane. -/
theorem revocation_final_image :
    let protocol := wellFormedProtocol fun _ _ => true
    ∃ presenter,
      runEvents protocol (fun before event => updatesLivePane before event &&
          servesRegistered protocol before event)
          (connecting ++ creatingImage ++ [.revoke 1]) = some presenter ∧
        presenter.shared.revoked = [1] ∧
        presenter.shared.admitted.find? 1 = some 1 ∧
        presenter.shared.sources.size = 0 ∧
        RevokedGone presenter.shared := by
  intro protocol
  have revokes : (runEvents protocol
      (fun before event => updatesLivePane before event &&
        servesRegistered protocol before event)
      (connecting ++ creatingImage ++ [.revoke 1])).map (fun presenter =>
        (presenter.shared.revoked, presenter.shared.admitted.find? 1,
          presenter.shared.sources.size)) = some ([1], some 1, 0) := by
    decide +kernel
  obtain ⟨presenter, followed, holds⟩ := Option.map_eq_some_iff.mp revokes
  obtain ⟨revoked, rest⟩ := Prod.mk.inj holds
  obtain ⟨admitted, sources⟩ := Prod.mk.inj rest
  refine ⟨presenter, followed, revoked, admitted, sources,
    revocation_final protocol (reachable_runEvents protocol ?_ _ followed)⟩
  exact fun before event checks => Bool.and_eq_true_iff.mp checks

/-- The record that creates image 3 was read before the pane was revoked, and
is performed after it: the source and its ticket outlive the pane. -/
theorem revoked_pane_gets_source :
    let protocol := wellFormedProtocol fun _ _ => true
    ∃ presenter,
      (presenterMachine protocol .standard).Reachable
          (fun before event => updatesLivePane before event = true)
          presenter ∧
        1 ∈ presenter.shared.revoked ∧
        presenter.shared.admitted.find? 1 = some 1 ∧
        ⟨1, 3⟩ ∈ presenter.shared.sources ∧
        9 ∈ presenter.shared.tickets ∧
        ¬ RevokedGone presenter.shared := by
  intro protocol
  have leaves : (runEvents protocol updatesLivePane
      (connecting ++ creatingImage.take 1 ++ [.revoke 1] ++
        creatingImage.drop 1)).map (fun presenter =>
          (presenter.shared.revoked, presenter.shared.admitted.find? 1,
            presenter.shared.sources.keys, presenter.shared.tickets.keys)) =
        some ([1], some 1, [⟨1, 3⟩], [9]) := by
    decide +kernel
  obtain ⟨presenter, followed, holds⟩ := Option.map_eq_some_iff.mp leaves
  obtain ⟨revoked, rest⟩ := Prod.mk.inj holds
  obtain ⟨admitted, rest⟩ := Prod.mk.inj rest
  obtain ⟨sources, tickets⟩ := Prod.mk.inj rest
  have isRevoked : 1 ∈ presenter.shared.revoked := by
    rw [revoked]
    exact List.mem_singleton_self 1
  have present : ⟨1, 3⟩ ∈ presenter.shared.sources := by
    rw [OrderedMap.mem_def, sources]
    exact List.mem_singleton_self _
  have issued : 9 ∈ presenter.shared.tickets := by
    rw [OrderedMap.mem_def, tickets]
    exact List.mem_singleton_self _
  refine ⟨presenter, reachable_runEvents protocol (fun _ _ checks => checks) _
    followed, isRevoked, admitted, present, issued, ?_⟩
  intro gone
  exact (gone 1 isRevoked).sources ⟨1, 3⟩ present admitted

end Media
end Vvmux
