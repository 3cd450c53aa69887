import Vvmux.Media.Accounting

/-!
# The limits a producer is told

`QUERY_LIMITS` tells a producer how much it may hold of what.  Sources, nodes,
waits and retained bytes are checked where they are made; `BEGIN_TXN` and the
markers of anchors are not.
-/

namespace Vvmux
namespace Media

open Library

variable (protocol : Protocol)

/-- A producer within the limits on its anchors and waits; an anchor that it
has was seen. -/
structure Producer.Limited (config : Config) (producer : Producer) : Prop where
  anchors : producer.anchors.size ≤ config.maxAnchors
  seen : ∀ anchor, anchor ∈ producer.anchors → anchor ∈ producer.seenAnchors
  waits : producer.waits.size ≤ maxRegisteredWaits

/-- A state within the limits of its configuration. -/
structure Limited (state : State) : Prop where
  sources : state.sources.size ≤ state.config.maxSources
  nodes : state.nodes.size ≤ state.config.maxNodes
  transactions : state.transactions.size ≤ state.config.maxNodes
  producers : ∀ producerId producer,
    state.producers.find? producerId = some producer →
      producer.Limited state.config

/-! ## Changes -/

variable {before after state : State} {producer : Producer}
  {event : PresenterEvent}

theorem Change.config
    (change : Change before after) : after.config = before.config := by
  cases change with
  | quiet quiet => exact quiet.config
  | _ => rfl

/-- No change creates a source. -/
theorem Change.sources_size
    (change : Change before after) :
    after.sources.size ≤ before.sources.size := by
  apply OrderedMap.size_le_of_subset
  intro key present
  obtain ⟨source, found⟩ := Option.isSome_iff_exists.mp
    ((OrderedMap.find?_isSome_iff _ _).mpr present)
  obtain ⟨old, there, -⟩ := change.sourcesKept.origin key source found
  exact OrderedMap.mem_of_find?_eq_some there

/-- No change begins a transaction. -/
theorem Change.transactions_size
    (change : Change before after) :
    after.transactions.size ≤ before.transactions.size := by
  cases change with
  | quiet quiet => exact Nat.le_of_eq (congrArg _ quiet.transactions)
  | commit key mutations nodes opened commits few =>
      exact OrderedMap.size_erase_le _ _
  | dropProducer producerId => exact OrderedMap.size_filter_le _ _
  | closeTransaction key => exact OrderedMap.size_erase_le _ _
  | bufferMutation key mutation owned =>
      exact Nat.le_of_eq (OrderedMap.size_modify _ _ _)
  | _ => exact Nat.le_refl _

/-- A commit checks the number of its nodes, and other changes put none into
the scene. -/
theorem Change.nodes_size
    (change : Change before after)
    (limited : before.nodes.size ≤ before.config.maxNodes) :
    after.nodes.size ≤ before.config.maxNodes := by
  cases change with
  | quiet quiet =>
      rw [quiet.nodes]
      exact limited
  | filterNodes keep =>
      exact (OrderedMap.size_filter_le _ _).trans limited
  | placeNodes nodes related =>
      rw [related.size_eq]
      exact limited
  | commit key mutations nodes opened commits few => exact few
  | _ => exact limited

variable {config : Config}

/-- Anchors and waits that go keep a producer within its limits. -/
theorem Producer.Limited.fewer
    {before after : Producer}
    (limited : before.Limited config)
    (anchors : ∀ anchor, anchor ∈ after.anchors → anchor ∈ before.anchors)
    (seenAnchors : after.seenAnchors = before.seenAnchors)
    (waits : ∀ request, request ∈ after.waits → request ∈ before.waits) :
    after.Limited config where
  anchors := (OrderedMap.size_le_of_subset anchors).trans limited.anchors
  seen := by
    intro anchor present
    rw [seenAnchors]
    exact limited.seen anchor (anchors anchor present)
  waits := (OrderedMap.size_le_of_subset waits).trans limited.waits

theorem Producer.Quiet.limited
    {before after : Producer}
    (quiet : before.Quiet after)
    (limited : before.Limited config) : after.Limited config := by
  apply limited.fewer
  · rw [quiet.anchors]
    exact fun _ present => present
  · exact quiet.seenAnchors
  · intro request present
    obtain ⟨wait, found⟩ := Option.isSome_iff_exists.mp
      ((OrderedMap.find?_isSome_iff _ _).mpr present)
    exact OrderedMap.mem_of_find?_eq_some (quiet.waits request wait found)

/-- A producer that was just admitted has nothing. -/
theorem limited_of_empty
    (anchors : producer.anchors = .empty)
    (waits : producer.waits = .empty) : producer.Limited config where
  anchors := by
    rw [anchors]
    exact Nat.zero_le _
  seen := by
    rw [anchors]
    exact fun anchor present => absurd present (OrderedMap.not_mem_empty anchor)
  waits := by
    rw [waits]
    exact Nat.zero_le _

theorem Change.producer_limited
    (change : Change before after)
    (limited : ∀ producerId producer,
      before.producers.find? producerId = some producer →
        producer.Limited before.config)
    {producerId : ProducerId}
    {producer : Producer}
    (found : after.producers.find? producerId = some producer) :
    producer.Limited before.config := by
  cases change with
  | quiet quiet =>
      obtain ⟨old, there, same⟩ := quiet.producers.exists_before found
      exact same.limited (limited producerId old there)
  | dropProducer gone =>
      simp only [State.dropProducer, OrderedMap.find?_erase] at found
      split at found
      · cases found
      · exact limited producerId producer found
  | registerWait waiting runtime request wait there few =>
      simp only [State.updateProducer, OrderedMap.find?_modify] at found
      split at found
      · rename_i here
        rw [here, there] at found
        cases found
        have old := limited waiting runtime there
        exact ⟨old.anchors, old.seen,
          (OrderedMap.size_insert_le _ _ _).trans few⟩
      · exact limited producerId producer found
  | placeAnchors producers related =>
      obtain ⟨old, there, moved⟩ := related.exists_before found
      refine (limited producerId old there).fewer moved.anchors
        moved.seenAnchors ?_
      rw [moved.waits]
      exact fun _ present => present
  | enterProducer new display known anchors seen waits =>
      simp only [State.enterProducer, OrderedMap.find?_insert] at found
      split at found
      · cases found
        exact limited_of_empty anchors waits
      · exact limited producerId producer found
  | _ => exact limited producerId producer found

theorem Limited.change
    (limited : Limited before)
    (change : Change before after) : Limited after where
  sources := by
    rw [change.config]
    exact change.sources_size.trans limited.sources
  nodes := by
    rw [change.config]
    exact change.nodes_size limited.nodes
  transactions := by
    rw [change.config]
    exact change.transactions_size.trans limited.transactions
  producers := by
    rw [change.config]
    exact fun _ _ found => change.producer_limited limited.producers found

/-! ## Deeds -/

/-- A transaction that a step begins has room. -/
def State.hasTransactionRoom (state : State) (key : ObjectKey) : Bool :=
  decide (key ∈ state.transactions) ||
    decide (state.transactions.size < state.config.maxNodes)

/-- An anchor that a step registers has room. -/
def State.hasAnchorRoom (state : State) (producerId : ProducerId) : Bool :=
  (state.producers.find? producerId).all fun producer =>
    decide (producer.anchors.size < state.config.maxAnchors)

/-- What a deed begins or registers has room. -/
def Deed.hasRoom
    (state : State) :
    Deed → Bool
  | .beginTransaction key => state.hasTransactionRoom key
  | .registerAnchor producerId _ _ => state.hasAnchorRoom producerId
  | _ => true

/-- What a step begins or registers has room. -/
def staysWithinLimits (presenter : Presenter) (event : PresenterEvent) : Bool :=
  (presenter.deed? protocol event).all (Deed.hasRoom presenter.shared)

/-- A transaction is begun within the limits exactly if there is room. -/
theorem begin_within_iff
    (limited : state.transactions.size ≤ state.config.maxNodes)
    (key : ObjectKey) :
    (state.transactions.insert key []).size ≤ state.config.maxNodes ↔
      state.hasTransactionRoom key = true := by
  unfold State.hasTransactionRoom
  by_cases present : key ∈ state.transactions
  · have same := OrderedMap.size_insert_of_mem present
      ([] : List Mutation)
    simp only [present, decide_true, Bool.true_or, iff_true]
    exact same.trans limited
  · rw [OrderedMap.size_insert_of_not_mem present]
    simp only [present, decide_false, Bool.false_or, decide_eq_true_eq]
    exact Iff.rfl

variable {marker : Marker}

/-- A marker's anchor was not seen before. -/
theorem not_seen_of_accepts
    (accepted : producer.accepts marker = true) :
    marker.anchorId ∉ producer.seenAnchors := by
  unfold Producer.accepts at accepted
  simp only [Bool.and_eq_true, Bool.not_eq_true',
    List.contains_eq_mem, decide_eq_false_iff_not] at accepted
  exact accepted.1.2

/-- A producer with one more anchor. -/
theorem limited_registered_iff
    (limited : producer.Limited config)
    (accepted : producer.accepts marker = true)
    (place : Int × Nat) :
    ({ producer with
        seenAnchors := marker.anchorId :: producer.seenAnchors
        anchors := producer.anchors.insert marker.anchorId place } :
      Producer).Limited config ↔
        producer.anchors.size < config.maxAnchors := by
  have fresh : marker.anchorId ∉ producer.anchors := fun present =>
    not_seen_of_accepts accepted (limited.seen _ present)
  have larger := OrderedMap.size_insert_of_not_mem fresh place
  constructor
  · intro after
    have bound := after.anchors
    simp only at bound
    omega
  · intro room
    refine ⟨?_, ?_, limited.waits⟩
    · simp only
      omega
    · intro anchor present
      rcases (OrderedMap.mem_insert _ _ _ _).mp present with rfl | there
      · exact List.mem_cons_self ..
      · exact List.mem_cons_of_mem _ (limited.seen anchor there)

theorem Limited.updateSource
    (limited : Limited state)
    (key : SourceKey)
    (change : Source → Source) : Limited (state.updateSource key change) where
  sources := by
    simp only [State.updateSource, OrderedMap.size_modify]
    exact limited.sources
  nodes := limited.nodes
  transactions := limited.transactions
  producers := limited.producers

theorem Limited.deed
    {deed : Deed}
    (limited : Limited before)
    (room : deed.hasRoom before = true)
    (performs : Performs protocol before deed after) : Limited after := by
  cases performs with
  | insertMetrics pane display =>
      exact { limited with }
  | beginTransaction key =>
      exact ⟨limited.sources, limited.nodes,
        (begin_within_iff limited.transactions key).mpr room,
        limited.producers⟩
  | registerAnchor producerId producer marker place found accepted =>
      refine ⟨limited.sources, limited.nodes, limited.transactions, ?_⟩
      intro query runtime there
      simp only [State.registerAnchor, State.updateProducer,
        OrderedMap.find?_modify] at there
      split at there
      · rename_i here
        rw [here, found] at there
        cases there
        apply (limited_registered_iff (limited.producers producerId producer
          found) accepted place).mpr
        simpa [Deed.hasRoom, State.hasAnchorRoom, found] using room
      · exact limited.producers query runtime there
  | createSource producerId creation maximum token now valid few fits fresh =>
      refine ⟨?_, limited.nodes, limited.transactions, limited.producers⟩
      exact (OrderedMap.size_insert_le _ _ _).trans few
  | destroySource key source found =>
      exact ⟨(OrderedMap.size_erase_le _ _).trans limited.sources,
        (OrderedMap.size_filter_le _ _).trans limited.nodes,
        limited.transactions, limited.producers⟩
  | presentTicket token ticket found =>
      exact { limited with }
  | attachChannel token ticket source found => exact limited.updateSource _ _
  | flushSource key source epoch causation found
  | endSource key source epoch causation found =>
      exact limited.updateSource _ _

theorem limited_start
    (config : Config)
    (events : Bool) : Limited (.start config events) where
  sources := Nat.zero_le _
  nodes := Nat.zero_le _
  transactions := Nat.zero_le _
  producers := fun _ _ found => nomatch found

theorem limited_step
    {before after : Presenter}
    (limited : Limited before.shared)
    (stays : staysWithinLimits protocol before event = true)
    (stepped : presenterStep protocol before event = some after) :
    Limited after.shared := by
  rcases does_presenterStep protocol stepped with
    changes | ⟨deed, middle, isDeed, performs, changes⟩
  · exact changes.preserve (fun _ _ holds change => holds.change change) limited
  · unfold staysWithinLimits at stays
    rw [isDeed] at stays
    exact changes.preserve (fun _ _ holds change => holds.change change)
      (limited.deed protocol stays performs)

/-! ## The checks are needed -/

/-- The limits that are not checked. -/
structure FewBegun (state : State) : Prop where
  transactions : state.transactions.size ≤ state.config.maxNodes
  anchors : ∀ producerId producer,
    state.producers.find? producerId = some producer →
      producer.anchors.size ≤ state.config.maxAnchors

/-- Quiet changes bring nothing within its limits. -/
theorem FewBegun.before_quiet
    (quiet : Quiet before after)
    (few : FewBegun after) : FewBegun before where
  transactions := by
    rw [← quiet.config, ← quiet.transactions]
    exact few.transactions
  anchors := by
    intro producerId producer found
    obtain ⟨later, there, same⟩ := quiet.producers.exists_after found
    rw [← quiet.config, ← same.anchors]
    exact few.anchors producerId later there

/-- A transaction that a step begins is open behind it. -/
theorem beginTransaction_step
    {presenter after : Presenter}
    {key : ObjectKey}
    (isDeed : presenter.deed? protocol event = some (.beginTransaction key))
    (stepped : presenterStep protocol presenter event = some after) :
    Quiet
      { presenter.shared with
        transactions := presenter.shared.transactions.insert key [] }
      after.shared := by
  cases deedOf protocol isDeed with
  | perform thread circumstance writable producer record deed busy performs =>
      rw [shared_run protocol busy stepped]
      cases recordDeed performs with
      | beginTransaction envelope transaction isBegin named =>
          simp only [runTask, perform, isBegin, beginTxn, named]
          split
          · exact .refl _
          · exact quiet_respond _ _ _

/-- An anchor that a step registers is there behind it. -/
theorem registerAnchor_step
    {presenter after : Presenter}
    {producerId : ProducerId}
    {anchor : Nat}
    {place : Int × Nat}
    (isDeed : presenter.deed? protocol event =
      some (.registerAnchor producerId anchor place))
    (stepped : presenterStep protocol presenter event = some after) :
    (∃ producer marker,
      presenter.shared.producers.find? producerId = some producer ∧
        producer.accepts marker = true ∧ marker.anchorId = anchor) ∧
      Quiet (presenter.shared.registerAnchor producerId anchor place)
        after.shared := by
  cases deedOf protocol isDeed with
  | registerAnchor pane marker line column _ producer owns accepted =>
      have found : presenter.shared.producers.find? producerId =
          some producer :=
        OrderedMap.find?_eq_some_iff.mpr (List.mem_of_find?_eq_some owns)
      refine ⟨⟨producer, marker, found, accepted, rfl⟩, ?_⟩
      simp only [presenterStep, sessionStep, observeMarker, owns, accepted,
        Option.map_some, Option.some_or, Option.some.injEq] at stepped
      rw [← stepped]
      exact ((quiet_advanceScene protocol _ _ _).trans
        (quiet_advanceProjection _)).trans (quiet_write _ _ _)
  | perform thread circumstance writable producer record deed busy performs =>
      cases recordDeed performs

/-- A step that makes something without room leaves the limits. -/
theorem overrun_step
    {before after : Presenter}
    (limited : Limited before.shared)
    (overruns : staysWithinLimits protocol before event = false)
    (stepped : presenterStep protocol before event = some after) :
    ¬ FewBegun after.shared := by
  intro later
  unfold staysWithinLimits at overruns
  cases isDeed : before.deed? protocol event with
  | none =>
      rw [isDeed] at overruns
      cases overruns
  | some deed =>
      rw [isDeed] at overruns
      cases deed with
      | beginTransaction key =>
          have within := (later.before_quiet
            (beginTransaction_step protocol isDeed stepped)).transactions
          have room := (begin_within_iff limited.transactions key).mp within
          rw [Option.all_some, Deed.hasRoom, room] at overruns
          cases overruns
      | registerAnchor producerId anchor place =>
          obtain ⟨⟨producer, marker, found, accepted, rfl⟩, quiet⟩ :=
            registerAnchor_step protocol isDeed stepped
          have within := (later.before_quiet quiet).anchors producerId
            { producer with
              seenAnchors := marker.anchorId :: producer.seenAnchors
              anchors := producer.anchors.insert marker.anchorId place }
            (by simp [State.registerAnchor, State.updateProducer, found,
              OrderedMap.find?_modify])
          have fresh : marker.anchorId ∉ producer.anchors := fun present =>
            not_seen_of_accepts accepted
              ((limited.producers producerId producer found).seen _ present)
          have larger := OrderedMap.size_insert_of_not_mem fresh place
          have full : ¬ producer.anchors.size <
              before.shared.config.maxAnchors := by
            simpa [Deed.hasRoom, State.hasAnchorRoom, found] using overruns
          simp only [State.registerAnchor, State.updateProducer] at within
          omega
      | _ => cases overruns

/-! ## What a producer is told -/

/-- What there is, and what `QUERY_LIMITS` reports to a producer, is within
what it advertises. -/
structure WithinAdvertised
    (state : State)
    (producerId : ProducerId)
    (limits : LimitsStatus) : Prop where
  sources : state.sources.size ≤ limits.maximumSources
  reportedSources : limits.currentSources ≤ limits.maximumSources
  nodes : state.nodes.size ≤ limits.maximumNodes
  reportedNodes : limits.currentNodes ≤ limits.maximumNodes
  transactions : state.transactions.size ≤ limits.maximumTransactions
  anchors : ∀ producer, state.producers.find? producerId = some producer →
    producer.anchors.size ≤ limits.maximumAnchors
  waits : ∀ producer, state.producers.find? producerId = some producer →
    producer.waits.size ≤ limits.maximumWaits
  retained : state.retainedBytes ≤ state.config.aggregateRetainedBytes
  reportedPixels : limits.currentRetainedPixels ≤ limits.retainedPixelBudget

/-- Every producer's limits hold. -/
def WithinLimits (state : State) : Prop :=
  ∀ producerId,
    WithinAdvertised state producerId (limitsStatus protocol state producerId)

theorem withinLimits_of_limited
    (limited : Limited state)
    (accounted : Accounted state) : WithinLimits protocol state := by
  intro producerId
  constructor
  case sources => exact limited.sources
  case reportedSources =>
    exact (OrderedMap.size_filter_le _ _).trans limited.sources
  case nodes => exact limited.nodes
  case reportedNodes =>
    exact (OrderedMap.size_filter_le _ _).trans limited.nodes
  case transactions => exact limited.transactions
  case anchors =>
    exact fun producer found => (limited.producers producerId producer
      found).anchors
  case waits =>
    exact fun producer found => (limited.producers producerId producer
      found).waits
  case retained => exact accounted.limit
  case reportedPixels => exact Nat.div_le_div_right accounted.limit

theorem WithinLimits.few
    (within : WithinLimits protocol state) : FewBegun state where
  transactions := (within 0).transactions
  anchors := fun producerId => (within producerId).anchors

/-- In every run that begins a transaction or registers an anchor only where
there is room, every advertised limit holds; and in each of its states the
next step keeps the limits exactly if it finds room too. -/
theorem limits_enforced
    {config : Config}
    {presenter : Presenter}
    (reachable : (presenterMachine protocol config).Reachable
      (fun presenter event => staysWithinLimits protocol presenter event = true)
      presenter) :
    WithinLimits protocol presenter.shared ∧
      ∀ event after, presenterStep protocol presenter event = some after →
        (WithinLimits protocol after.shared ↔
          staysWithinLimits protocol presenter event = true) := by
  have limited : Limited presenter.shared := by
    apply reachable.invariant
    · rintro start ⟨events, rfl⟩
      exact limited_start config events
    · intro before event after holds stays stepped
      exact limited_step protocol holds stays stepped
  have accounted := reachable_accounted protocol reachable
  refine ⟨withinLimits_of_limited protocol limited accounted, ?_⟩
  intro event after stepped
  constructor
  · intro within
    by_contra overruns
    exact overrun_step protocol limited (Bool.eq_false_iff.mpr overruns) stepped
      (within.few protocol)
  · intro stays
    exact withinLimits_of_limited protocol
      (limited_step protocol limited stays stepped)
      (reachable_accounted protocol (.step reachable stays stepped))

/-! ### Markers on a pane -/

/-- The markers of the first anchors of producer 1. -/
def showingMarkers (anchors : Nat) : List PresenterEvent :=
  (List.range anchors).map fun anchor => .observeMarker 1 ⟨0, anchor, 7⟩ 0 0

/-- How many anchors producer 1 has after some markers. -/
def anchorsShown (presenter : Presenter) : Option Nat :=
  (presenter.shared.producers.find? 1).map fun producer => producer.anchors.size

/-- Two anchors are within the limits. -/
theorem limits_enforced_two_anchors :
    let protocol := wellFormedProtocol fun _ _ => true
    ∃ presenter,
      runEvents protocol (staysWithinLimits protocol)
          (connecting ++ showingMarkers 2) = some presenter ∧
        anchorsShown presenter = some 2 ∧
        WithinLimits protocol presenter.shared := by
  intro protocol
  have shown : (runEvents protocol (staysWithinLimits protocol)
      (connecting ++ showingMarkers 2)).map anchorsShown = some (some 2) := by
    decide +kernel
  obtain ⟨presenter, followed, two⟩ := Option.map_eq_some_iff.mp shown
  exact ⟨presenter, followed, two, (limits_enforced protocol
    (reachable_runEvents protocol (fun _ _ stays => stays) _ followed)).1⟩

/-- A producer prints markers for one anchor more than it is allowed. -/
theorem markers_exceed_anchor_limit :
    let protocol := wellFormedProtocol fun _ _ => true
    ∃ presenter,
      (presenterMachine protocol .standard).Reachable (fun _ _ => True)
          presenter ∧
        anchorsShown presenter = some 257 ∧
        (limitsStatus protocol presenter.shared 1).maximumAnchors = 256 ∧
        ¬ WithinLimits protocol presenter.shared := by
  intro protocol
  have shown : (runEvents protocol (fun _ _ => true)
      (connecting ++ showingMarkers 257)).map (fun presenter =>
        (anchorsShown presenter,
          (limitsStatus protocol presenter.shared 1).maximumAnchors)) =
      some (some 257, 256) := by
    decide +kernel
  obtain ⟨presenter, followed, counts⟩ := Option.map_eq_some_iff.mp shown
  obtain ⟨many, maximum⟩ := Prod.mk.inj counts
  refine ⟨presenter, reachable_runEvents protocol (fun _ _ _ => trivial) _
    followed, many, maximum, ?_⟩
  intro within
  obtain ⟨producer, found, size⟩ := Option.map_eq_some_iff.mp many
  have bound := (within 1).anchors producer found
  rw [maximum, size] at bound
  omega

end Media
end Vvmux
