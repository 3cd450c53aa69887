import Vvmux.Media.Deeds

/-!
# The changes each function makes

One lemma for each function of the presenter: what it does to the shared state
is a sequence of elementary changes.
-/

namespace Vvmux
namespace Media

open Library

variable (protocol : Protocol)

/-! ## Credit and deliveries -/

variable (state : State) {key : SourceKey} {source : Source}

theorem changes_consumeSourceCredit
    (key : SourceKey)
    (bytes : Nat) : Changes state (consumeSourceCredit state key bytes).1 := by
  unfold consumeSourceCredit
  cases found : state.sources.find? key with
  | none => exact .refl
  | some source =>
      simp only
      split
      · exact .refl
      · rename_i paid
        have affords : source.affords bytes = true := by simpa using paid
        split
        · rename_i exhausted
          have beyond := checkedAdd_eq_none_iff.mp exhausted
          have constant : state.updateSource key
              (fun source => source.pay bytes) =
                state.updateSource key fun _ => source.pay bytes :=
            State.updateSource_congr found rfl
          rw [constant]
          exact .single (.overflow state key source _ bytes found affords
            (.inl beyond) rfl)
        · rename_i chargedBytes counted
          obtain ⟨-, bytesSum⟩ := checkedAdd_eq_some_iff.mp counted
          split
          · rename_i exhausted
            have beyond := checkedAdd_eq_none_iff.mp exhausted
            have constant : state.updateSource key
                (fun source =>
                  { source.pay bytes with chargedBytes := chargedBytes }) =
                state.updateSource key fun _ =>
                  { source.pay bytes with chargedBytes := chargedBytes } :=
              State.updateSource_congr found rfl
            rw [constant]
            exact .single (.overflow state key source _ bytes found affords
              (.inr beyond) rfl)
          · rename_i chargedPackets packets
            obtain ⟨-, packetsSum⟩ := checkedAdd_eq_some_iff.mp packets
            have charged : state.updateSource key
                (fun source =>
                  { source.pay bytes with
                    chargedBytes := chargedBytes
                    chargedPackets := chargedPackets }) =
                state.updateSource key fun source => source.charge bytes := by
              apply State.updateSource_congr found
              rw [bytesSum, packetsSum]
              rfl
            rw [charged]
            exact .single (.charge state key source bytes found affords)

theorem changes_prepareCreditReturn
    (key : SourceKey)
    (bytes : Nat) :
    Changes state (prepareCreditReturn state key bytes 1).1 := by
  unfold prepareCreditReturn
  cases found : state.sources.find? key with
  | none => exact .refl
  | some source =>
      simp only
      split
      · exact .refl
      · rename_i enough
        simp only [not_or, Nat.not_lt] at enough
        split
        · rename_i projected
          have settled : state.updateSource key
              (fun _ => (source.refund bytes 1).grant
                (source.refund bytes 1).topUp) =
              state.updateSource key fun source =>
                source.settle true bytes :=
            State.updateSource_congr found rfl
          simp only [settled]
          exact .single (.settle state key source true bytes found enough.1
            enough.2)
        · have settled : state.updateSource key
              (fun _ => source.refund bytes 1) =
              state.updateSource key fun source =>
                source.settle false bytes :=
            State.updateSource_congr found rfl
          simp only [settled]
          exact .single (.settle state key source false bytes found enough.1
            enough.2)

theorem quiet_writeDeliveryCredit
    (credit : DeliveryCredit) :
    Quiet state (writeDeliveryCredit state credit) := by
  unfold writeDeliveryCredit
  split
  · exact quiet_write _ _ _
  · exact .refl _

theorem changes_returnCredit
    (key : SourceKey)
    (bytes : Nat) : Changes state (returnCredit state key bytes) :=
  (changes_prepareCreditReturn state key bytes).trans
    (quiet_writeDeliveryCredit _ _).changes

theorem changes_takeDelivery
    (delivery : Nat) : Changes state (takeDelivery state delivery) := by
  unfold takeDelivery
  cases found : state.deliveries.find? delivery with
  | none => exact .refl
  | some pending =>
      exact (Relation.ReflTransGen.single
        (.dropDelivery state delivery pending found)).trans
          (changes_returnCredit _ _ _)

theorem changes_takeDeliveries
    (deliveries : List Nat) : Changes state (takeDeliveries state deliveries) :=
  changes_foldl takeDelivery changes_takeDelivery deliveries state

theorem changes_cancelSourceDeliveries
    (source : SourceKey) :
    Changes state (cancelSourceDeliveries state source) :=
  changes_takeDeliveries state _

/-! ## Nodes, sources and producers that go -/

/-- An orphan stays one while other sources are dropped. -/
theorem orphaned_dropSource
    (dropped : SourceKey)
    (source : Source)
    (key : SourceKey) :
    (state.dropSource dropped source).orphaned key = state.orphaned key :=
  rfl

theorem changes_pruneOrphanedSources
    (state : State) : Changes state (pruneOrphanedSources state) := by
  unfold pruneOrphanedSources
  have each : ∀ (entries : List (SourceKey × Source)) (current : State),
      (entries.map Prod.fst).Nodup →
      (∀ entry ∈ entries,
        current.sources.find? entry.1 = some entry.2 ∧
          current.orphaned entry.1 = true) →
      Changes current
        (entries.foldl (fun state entry => state.dropSource entry.1 entry.2)
          current) := by
    intro entries
    induction entries with
    | nil => exact fun _ _ _ => .refl
    | cons entry rest ih =>
        intro current distinct orphans
        simp only [List.map_cons, List.nodup_cons] at distinct
        obtain ⟨found, orphaned⟩ := orphans entry (List.mem_cons_self ..)
        have head : Changes current (current.dropSource entry.1 entry.2) :=
          .single (.pruneSource current entry.1 entry.2 found orphaned)
        refine head.trans (ih _ distinct.2 ?_)
        intro other present
        obtain ⟨there, alone⟩ := orphans other (List.mem_cons_of_mem _ present)
        have different : other.1 ≠ entry.1 := by
          intro same
          exact distinct.1 (same ▸ List.mem_map_of_mem present)
        constructor
        · simp only [State.dropSource, OrderedMap.find?_erase, if_neg different]
          exact there
        · rw [orphaned_dropSource]
          exact alone
  apply each
  · exact OrderedMap.keys_nodup _
  · intro entry present
    have stored := OrderedMap.find?_eq_some_iff.mpr present
    rw [OrderedMap.find?_filter] at stored
    exact ⟨Option.eq_some_of_filter_eq_some stored,
      (Option.filter_eq_some_iff.mp stored).2⟩

/-- Dropping sources leaves all but the sources of the scene alone. -/
theorem prune_others
    (state : State) :
    (pruneOrphanedSources state).producers = state.producers ∧
      (pruneOrphanedSources state).nodes = state.nodes := by
  unfold pruneOrphanedSources
  generalize (state.sources.filter fun key _ => state.orphaned key).entries =
    entries
  induction entries generalizing state with
  | nil => exact ⟨rfl, rfl⟩
  | cons entry rest ih =>
      exact ih (state.dropSource entry.1 entry.2)

theorem find?_dropSources
    (entries : List (SourceKey × Source))
    (state : State)
    (key : SourceKey) :
    (entries.foldl (fun state entry => state.dropSource entry.1 entry.2)
      state).sources.find? key =
      if key ∈ entries.map Prod.fst then none else state.sources.find? key := by
  induction entries generalizing state with
  | nil => simp
  | cons entry rest ih =>
      rw [List.foldl_cons, ih]
      simp only [State.dropSource, OrderedMap.find?_erase, List.map_cons,
        List.mem_cons]
      by_cases here : key = entry.1
      · simp [here]
      · simp only [here, if_false, false_or]

/-- Exactly the orphans are pruned. -/
theorem find?_pruneOrphanedSources
    (key : SourceKey) :
    (pruneOrphanedSources state).sources.find? key =
      if state.orphaned key = true then none
      else state.sources.find? key := by
  unfold pruneOrphanedSources
  rw [find?_dropSources]
  have listed : key ∈ ((state.sources.filter fun key _ =>
      state.orphaned key).entries.map Prod.fst) ↔
        ((state.sources.find? key).filter fun _ =>
          state.orphaned key).isSome := by
    have filtered := OrderedMap.find?_filter
      (fun key (_ : Source) => state.orphaned key) state.sources key
    rw [← filtered, OrderedMap.find?_isSome_iff]
    rfl
  by_cases orphaned : state.orphaned key = true
  · rw [if_pos orphaned]
    split
    · rfl
    · rename_i unlisted
      rw [listed, orphaned] at unlisted
      cases found : state.sources.find? key with
      | none => rfl
      | some source => simp [found, Option.filter] at unlisted
  · rw [if_neg orphaned, if_neg]
    rw [listed]
    cases state.sources.find? key <;> simp [Option.filter, orphaned]

/-- No orphan is left. -/
theorem orphaned_pruneOrphanedSources
    (key : SourceKey)
    (kept : key ∈ (pruneOrphanedSources state).sources) :
    (pruneOrphanedSources state).orphaned key = false := by
  rw [← OrderedMap.find?_isSome_iff, find?_pruneOrphanedSources] at kept
  unfold State.orphaned
  rw [(prune_others state).1, (prune_others state).2]
  split at kept
  · cases kept
  · rename_i sheltered
    simpa [State.orphaned] using sheltered

/-- A source that is no orphan belongs to a registered producer, or a node
shows it. -/
theorem shown_of_not_orphaned
    {state : State}
    (sheltered : state.orphaned key = false) :
    key.producer ∈ state.producers ∨
      ∃ nodeKey node, state.nodes.find? nodeKey = some node ∧
        node.source = key := by
  unfold State.orphaned at sheltered
  rcases Bool.and_eq_false_iff.mp sheltered with registered | shown
  · exact .inl (by simpa using registered)
  · right
    have any := (Bool.not_eq_false' _).mp shown
    obtain ⟨⟨nodeKey, node⟩, listed, same⟩ := List.any_eq_true.mp any
    exact ⟨nodeKey, node,
      OrderedMap.find?_eq_some_iff.mpr listed, by simpa using same⟩

variable (producerId : ProducerId)

theorem changes_cleanupProducer
    (preserve : Bool) :
    Changes state (cleanupProducer protocol state producerId preserve) := by
  unfold cleanupProducer
  split
  · exact .refl
  · rename_i runtime _
    refine .trans (.single (.dropProducer state producerId)) ?_
    refine .trans ?_ (quiet_advanceProjection _).changes
    refine .trans ?_ (changes_pruneOrphanedSources _)
    refine .trans (.single (.placeNodes _ _ (OrderedMap.related_mapValues
      (state.dropProducer producerId).nodes
      (fun _ node =>
        if node.producer = producerId then
          { node with
            retainedAnchor := node.config.anchorId.bind runtime.anchors.find? }
        else node) ?_))) (.single (.filterNodes _ _))
    intro _ node
    split
    · exact ⟨rfl, rfl, rfl⟩
    · exact ⟨rfl, rfl, rfl⟩

theorem producers_cleanupProducer
    (preserve : Bool)
    (query : ProducerId) :
    (cleanupProducer protocol state producerId preserve).producers.find?
        query =
      if query = producerId then none else state.producers.find? query := by
  unfold cleanupProducer
  split
  · rename_i missing
    split
    · rename_i same
      rw [same, missing]
    · rfl
  · simp only [advanceProjection, (prune_others _).1]
    exact OrderedMap.find?_erase _ _ _

variable (producers : List ProducerId)

theorem producers_cleanupProducers
    (state : State)
    (query : ProducerId) :
    (producers.foldl
        (fun state producer => cleanupProducer protocol state producer false)
        state).producers.find? query =
      if query ∈ producers then none else state.producers.find? query := by
  induction producers generalizing state with
  | nil => simp
  | cons producer rest ih =>
      rw [List.foldl_cons, ih, producers_cleanupProducer]
      by_cases here : query = producer
      · simp [here]
      · simp [here]

/-- A producer of a pane is among the pane's producers. -/
theorem mem_producersOf
    {state : State}
    {pane : PaneId}
    {producerId : ProducerId}
    {producer : Producer}
    (found : state.producers.find? producerId = some producer)
    (isPane : producer.pane = pane) : producerId ∈ state.producersOf pane := by
  have kept : (state.producers.filter fun _ producer =>
      producer.pane == pane).find? producerId = some producer := by
    rw [OrderedMap.find?_filter, found]
    simp [Option.filter, isPane]
  exact OrderedMap.mem_of_find?_eq_some kept

theorem changes_revokePane
    (pane : PaneId) : Changes state (revokePane protocol state pane) := by
  unfold revokePane
  refine .trans ?_ (quiet_advanceProjection _).changes
  have disowned : Quiet state
      { state with capabilities := state.capabilities.erase pane } :=
    { Quiet.refl state with }
  have cleaned := disowned.changes.trans (changes_foldl
    (fun state producer => cleanupProducer protocol state producer false)
    (fun state producer => changes_cleanupProducer protocol state producer
      false)
    (State.producersOf
      { state with capabilities := state.capabilities.erase pane } pane) _)
  have cleared := cleaned.trans (Relation.ReflTransGen.single
    (.filterNodes _ fun _ node => node.pane != pane))
  refine (cleared.trans (changes_pruneOrphanedSources _)).trans
    (.single (.forgetPane _ _ ?_ ?_ ?_))
  · intro producerId producer found isPane
    rw [(prune_others _).1, producers_cleanupProducers] at found
    split at found
    · cases found
    · rename_i unlisted
      exact unlisted (mem_producersOf found isPane)
  · intro key node found
    rw [(prune_others _).2, OrderedMap.find?_filter] at found
    simpa using (Option.filter_eq_some_iff.mp found).2
  · exact fun key kept => orphaned_pruneOrphanedSources _ key kept

/-! ## Calls of the session -/

variable (pane : PaneId)

theorem does_updateMetrics
    (columns rows cellWidth cellHeight : Nat) :
    Does protocol (some (.insertMetrics pane)) state
      (updateMetrics state pane columns rows cellWidth cellHeight) := by
  unfold updateMetrics
  simp only
  split
  · exact .inl .refl
  · refine Performs.does protocol (.insertMetrics state pane
      (nextDisplay (state.metrics.find? pane) columns rows cellWidth
        cellHeight)) (Quiet.changes ?_)
    exact quiet_foldl _ (fun state producer =>
      quiet_writeIfConnected state producer _) _ _

theorem quiet_advanceScenes
    (reason : SceneReason) :
    Quiet state (advanceScenes protocol state producers reason) :=
  quiet_foldl _ (fun state producer =>
    quiet_advanceScene protocol state producer reason) _ _

theorem quiet_advanceSources
    (sources : List SourceKey)
    (changed : List SourceChange) :
    Quiet state (advanceSources protocol state sources changed) :=
  quiet_foldl _ (fun state key =>
    quiet_advanceSource protocol state key changed) _ _

/-- A marker registers at most one anchor. -/
theorem does_observeMarker
    (marker : Marker)
    (line : Int)
    (column : Nat) :
    Does protocol
      ((state.markerProducer protocol pane marker).bind fun entry =>
        if entry.2.accepts marker then
          some (.registerAnchor entry.1 marker.anchorId (line, column))
        else none)
      state (observeMarker protocol state pane marker line column) := by
  unfold observeMarker
  cases owner : state.markerProducer protocol pane marker with
  | none => exact .inl .refl
  | some entry =>
      obtain ⟨producerId, producer⟩ := entry
      simp only [Option.bind_some]
      cases accepted : producer.accepts marker with
      | false => exact .inl .refl
      | true =>
          simp only [Bool.not_true, Bool.false_eq_true, if_false, if_true]
          have found : state.producers.find? producerId = some producer :=
            OrderedMap.find?_eq_some_iff.mpr (List.mem_of_find?_eq_some owner)
          refine Performs.does protocol (.registerAnchor state producerId
            producer marker (line, column) found accepted) (Quiet.changes ?_)
          exact ((quiet_advanceScene protocol _ _ _).trans
            (quiet_advanceProjection _)).trans (quiet_write _ _ _)

/-- The keys of a map are those of the map with its values rewritten. -/
theorem mem_mapValues_anchors
    {α : Type}
    (anchors : OrderedMap Nat α)
    (change : Nat → α → α)
    (anchor : Nat) : anchor ∈ anchors.mapValues change ↔ anchor ∈ anchors := by
  rw [← OrderedMap.find?_isSome_iff, ← OrderedMap.find?_isSome_iff,
    OrderedMap.find?_mapValues, Option.isSome_map]

theorem changes_moveAnchors
    (lines : Int) : Changes state (state.moveAnchors pane lines) := by
  refine .trans (.single (.placeAnchors state
    (state.producers.mapValues fun _ producer =>
      if producer.pane = pane then
        { producer with
          anchors := producer.anchors.mapValues fun _ place =>
            (saturatingSubI32 place.1 lines, place.2) }
      else producer) (OrderedMap.related_mapValues _ _ ?_)))
    (.single (.placeNodes _ _ (OrderedMap.related_mapValues _ _ ?_)))
  · intro _ producer
    split
    · refine ⟨rfl, ?_, rfl, rfl⟩
      intro anchor present
      exact (mem_mapValues_anchors _ _ _).mp present
    · exact ⟨rfl, fun _ present => present, rfl, rfl⟩
  · intro _ node
    split
    · exact ⟨rfl, rfl, rfl⟩
    · exact ⟨rfl, rfl, rfl⟩

theorem changes_scrollAnchors
    (lines : Int) :
    Changes state (scrollAnchors protocol state pane lines) := by
  unfold scrollAnchors
  exact (changes_moveAnchors state pane lines).trans
    ((quiet_advanceScenes protocol _ _ _).trans
      (quiet_advanceProjection _)).changes

theorem changes_clearAnchors
    (pane : PaneId) : Changes state (clearAnchors protocol state pane) := by
  unfold clearAnchors
  have dropped : Changes state (state.dropAnchors pane) := by
    refine .single (.placeAnchors state _ (OrderedMap.related_mapValues _ _ ?_))
    intro _ producer
    split
    · exact ⟨rfl, fun _ absent => absurd absent (OrderedMap.not_mem_empty _),
        rfl, rfl⟩
    · exact ⟨rfl, fun _ present => present, rfl, rfl⟩
  have cleared := dropped.trans (Relation.ReflTransGen.single
    (.filterNodes _ fun _ node =>
      node.pane != pane || node.retainedAnchor.isNone))
  exact (cleared.trans (changes_pruneOrphanedSources _)).trans
    ((quiet_advanceScenes protocol _ _ _).trans
      (quiet_advanceProjection _)).changes

theorem changes_projectionSnapshot
    (panes : List PaneId)
    (viewportOffset : PaneId → Nat) :
    Changes state
      (projectionSnapshot protocol state panes viewportOffset) := by
  unfold projectionSnapshot
  simp only
  have projected : Quiet state
      { state with
        projectedSources :=
          (state.snapshotSources panes viewportOffset).map Prod.fst } :=
    { Quiet.refl state with }
  have released := projected.changes.trans (changes_takeDeliveries _
    (state.deliveries.filter fun _ pending =>
      !((state.snapshotSources panes viewportOffset).map
        Prod.fst).contains pending.source).keys)
  refine released.trans (Quiet.changes ?_)
  refine Quiet.trans ?_ (quiet_advanceSources protocol _ _ _)
  exact { Quiet.refl _ with }

theorem changes_deactivateBridge
    (state : State) : Changes state (deactivateBridge state) := by
  unfold deactivateBridge
  refine Relation.ReflTransGen.trans (Quiet.changes ?_)
    (changes_takeDeliveries _ _)
  refine { Quiet.refl state with
    sources := OrderedMap.related_mapValues _ _ ?_ }
  intro _ source
  split
  · exact { Source.Quiet.refl source with }
  · exact .refl source

theorem mild_concludeDelivery
    (key : SourceKey)
    (delivered : Bool) :
    Mild state (concludeDelivery state key delivered).1 := by
  unfold concludeDelivery
  split
  · exact .refl _
  · split
    · exact .refl _
    · split
      · apply mild_updateSource
        · exact fun source => { Source.Quiet.refl source with }
        · exact fun _ => Source.drifts_of_eq rfl rfl rfl rfl rfl rfl rfl id
      · split
        · apply mild_updateSource
          · exact fun source => { Source.Quiet.refl source with }
          · exact fun _ =>
              Source.drifts_of_eq rfl rfl rfl rfl rfl rfl rfl fun _ => rfl
        · exact .refl _

theorem changes_completeBridgeDelivery
    (delivery : Nat)
    (delivered : Bool) :
    Changes state
      (completeBridgeDelivery protocol state delivery delivered).1 := by
  unfold completeBridgeDelivery
  cases found : state.deliveries.find? delivery with
  | none => exact .refl
  | some pending =>
      have dropped : Changes state (state.dropDelivery delivery pending) :=
        .single (.dropDelivery state delivery pending found)
      have told := dropped.trans ((mild_concludeDelivery
        (state.dropDelivery delivery pending) pending.source
        delivered).trans (mild_advanceSource protocol _ pending.source
          (if delivered then [.milestones, .creditAccounting]
          else [.creditAccounting]))).quiet.changes
      exact told.trans (changes_returnCredit _ _ _)

theorem quiet_requestKeyframe
    (key : SourceKey)
    (minimum : Option Nat)
    (reason : KeyframeReason) :
    Quiet state (requestKeyframe protocol state key minimum reason) := by
  unfold requestKeyframe
  split
  · exact .refl _
  · split
    · exact .refl _
    · simp only
      split
      · exact .refl _
      · split
        · exact .refl _
        · refine Quiet.trans ?_ (quiet_write _ _ _)
          apply quiet_updateSource
          exact fun source _ => { Source.Quiet.refl source with }

theorem mild_requestFullFrame
    (key : SourceKey)
    (reason : FullFrameReason) :
    Mild state (requestFullFrame protocol state key reason) := by
  unfold requestFullFrame
  split
  · exact .refl _
  · split
    · exact .refl _
    · split
      · exact .refl _
      · have marked : Mild state (state.updateSource key fun source =>
            { source with rasterRequiresFullReason := some reason }) := by
          apply mild_updateSource
          · exact fun source => { Source.Quiet.refl source with }
          · exact fun _ => ⟨rfl, ⟨rfl, rfl, fun _ => rfl, fun _ => rfl⟩,
              ⟨rfl, rfl, rfl, rfl, id⟩⟩
        simp only
        split
        · exact marked
        · exact marked.trans (notified_writeIfConnected _ _ _).mild

theorem mild_applyOuterPlayback
    (key : SourceKey)
    (playback : OuterPlayback) :
    Mild state (applyOuterPlayback protocol state key playback) := by
  unfold applyOuterPlayback
  split
  · exact .refl _
  · cases playback with
    | playing =>
        refine Mild.trans ?_ (mild_advanceSource protocol _ _ _)
        apply mild_updateSource
        · exact fun source => { Source.Quiet.refl source with }
        · exact fun _ => Source.drifts_of_eq rfl rfl rfl rfl rfl rfl rfl id
    | ended =>
        refine Mild.trans ?_ (mild_advanceSource protocol _ _ _)
        refine Mild.trans ?_ (mild_advanceProjection _)
        apply mild_updateSource
        · exact fun source => { Source.Quiet.refl source with }
        · exact fun _ => Source.drifts_of_eq rfl rfl rfl rfl rfl rfl rfl id
    | other => exact mild_advanceSource protocol _ _ _

theorem quiet_notifyCapabilitiesChanged
    (state : State) : Quiet state (notifyCapabilitiesChanged state) := by
  unfold notifyCapabilitiesChanged
  split
  · exact .refl _
  · rename_i generation _
    have renewed : Quiet state
        { state with capabilityGeneration := generation } :=
      { Quiet.refl state with }
    exact renewed.trans (quiet_foldl _ (fun state producer =>
      quiet_writeIfConnected state producer _) _ _)

/-! ## Ingest -/

theorem quiet_absorbVideo
    (source : Source)
    (projected : Bool)
    (packet : VideoPacket)
    (sequence : MediaSequence) :
    source.Quiet (absorbVideo source projected packet sequence).source := by
  unfold absorbVideo
  simp only
  split
  · exact { Source.Quiet.refl source with }
  · split
    · exact { Source.Quiet.refl source with }
    · exact { Source.Quiet.refl source with }

theorem retained_absorbVideo
    (source : Source)
    (projected : Bool)
    (packet : VideoPacket)
    (sequence : MediaSequence) :
    (absorbVideo source projected packet sequence).retained = none := by
  unfold absorbVideo
  simp only
  split
  · rfl
  · split
    · rfl
    · rfl

/-- Only static sources retain a record. -/
def Absorbed.Fits (absorbed : Absorbed) (source : Source) : Prop :=
  source.Quiet absorbed.source ∧
    match absorbed.retained with
    | none => source.descriptor.isTimed = true
    | some _ => source.descriptor.isStatic = true

variable {absorbed : Absorbed}

theorem absorb_fits
    {projected : Bool}
    {prepared : Option PreparedRaster}
    {record : MediaRecord}
    (result : absorb protocol source projected prepared record =
      .ok absorbed) :
    absorbed.Fits source := by
  unfold absorb at result
  split at result
  · rename_i isRaster isFrame
    split at result
    · cases result
    · cases result
      exact ⟨.refl source, by simp [isRaster, SourceDescriptor.isStatic]⟩
  · rename_i isImage isData
    split at result
    · cases result
    · cases result
      exact ⟨{ Source.Quiet.refl source with },
        by simp [isImage, SourceDescriptor.isStatic]⟩
  · rename_i isVideo isPacket
    have timed : source.descriptor.isTimed = true := by
      simp [isVideo, SourceDescriptor.isTimed, SourceDescriptor.isStatic]
    split at result
    · cases result
    · split at result
      · cases result
      · split at result
        · cases result
        · cases result
          refine ⟨quiet_absorbVideo _ _ _ _, ?_⟩
          rw [retained_absorbVideo]
          exact timed
  · rename_i isAudio isPacket
    split at result
    · cases result
    · split at result
      · cases result
      · split at result
        · cases result
        · cases result
          exact ⟨{ Source.Quiet.refl source with },
            by simp [isAudio, SourceDescriptor.isTimed,
              SourceDescriptor.isStatic]⟩
  · cases result

theorem quiet_settleRecord
    (source : Source)
    (projected : Bool)
    (prepared : Option PreparedRaster)
    (record : MediaRecord) :
    source.Quiet (source.settleRecord projected prepared record) := by
  unfold Source.settleRecord
  cases prepared with
  | none | some frame => exact { Source.Quiet.refl source with }

theorem changes_deliverRecord
    {state : State}
    {source current : Source}
    (found : state.sources.find? key = some current)
    (same : current.serial = source.serial)
    (record : MediaRecord)
    (forward : Bool)
    (body : ForwardBody × Nat)
    (recovered : Option (Nat × Int)) :
    Changes state
      (deliverRecord state key record source forward body recovered).1 := by
  unfold deliverRecord
  split
  · split
    · exact .refl
    · rename_i delivery numbered
      obtain ⟨-, rfl⟩ := checkedAdd_eq_some_iff.mp numbered
      exact .single (.enterDelivery state
        { source := key
          creditBytes := record.length
          queuedBytes := body.2
          serial := source.serial } current found same.symm)
  · refine Relation.ReflTransGen.trans (Quiet.changes ?_)
      (changes_returnCredit _ _ _)
    split
    · apply quiet_updateSource
      exact fun source _ => { Source.Quiet.refl source with }
    · exact .refl _

/-- Setting a source that is there to a quiet version of it. -/
theorem quiet_setSource
    {state : State}
    {source after : Source}
    (found : state.sources.find? key = some source)
    (quiet : source.Quiet after) :
    Quiet state (state.updateSource key fun _ => after) := by
  apply quiet_updateSource
  intro current here
  rw [found] at here
  rw [← Option.some.inj here]
  exact quiet

section

variable {state : State} (found : state.sources.find? key = some source)
include found

theorem find?_updateSource_self
    (change : Source → Source) :
    (state.updateSource key change).sources.find? key =
      some (change source) := by
  simp only [State.updateSource, OrderedMap.find?_modify, if_pos, found,
    Option.map_some]

/-- What a source takes over of a record that fits. -/
theorem changes_keepRecord
    (fits : absorbed.Fits source)
    (projected : Bool)
    (prepared : Option PreparedRaster)
    (record : MediaRecord)
    (room : (((state.updateSource key fun _ =>
      absorbed.source).exchangeRetained source.retainedBytes
        (retainedLength absorbed.retained)).retainedBytes ≤
          state.config.aggregateRetainedBytes)) :
    Changes state
      (((state.updateSource key fun _ =>
        absorbed.source).exchangeRetained source.retainedBytes
          (retainedLength absorbed.retained)).updateSource key fun _ =>
            (absorbed.source.settleRecord projected prepared record).retain
              absorbed.retained) := by
  obtain ⟨quiet, kind⟩ := fits
  have settledQuiet := quiet.trans
    (quiet_settleRecord absorbed.source projected prepared record)
  have settled := quiet_setSource found settledQuiet
  have there := find?_updateSource_self found
    fun _ => absorbed.source.settleRecord projected prepared record
  refine settled.changes.trans ?_
  cases retains : absorbed.retained with
  | none =>
      rw [retains] at kind
      have exchanged : Changes _ _ := .single (.retainNothing _ key _ there
        (by
          unfold SourceDescriptor.isTimed
          rw [settledQuiet.descriptor]
          exact kind))
      rw [settledQuiet.retainedBytes] at exchanged
      have same : (state.updateSource key fun _ =>
          absorbed.source.settleRecord projected prepared record).exchangeRetained source.retainedBytes 0 =
          ((state.updateSource key fun _ =>
            absorbed.source).exchangeRetained source.retainedBytes
              (retainedLength none)).updateSource key fun _ =>
                (absorbed.source.settleRecord projected prepared record).retain none := by
        simp only [State.updateSource, State.exchangeRetained,
          State.releaseRetained, OrderedMap.modify_modify]
        rfl
      rw [← same]
      exact exchanged
  | some body =>
      rw [retains] at kind room
      have exchanged : Changes _ _ := .single (.retain _ key _ body there
        (by
          rw [settledQuiet.descriptor]
          exact kind)
        (by
          rw [settledQuiet.retainedBytes]
          exact room))
      rw [settledQuiet.retainedBytes] at exchanged
      have same : ((state.updateSource key fun _ =>
          absorbed.source.settleRecord projected prepared record).exchangeRetained source.retainedBytes
              body.length).updateSource key
                (fun source => source.retain (some body)) =
          ((state.updateSource key fun _ =>
            absorbed.source).exchangeRetained source.retainedBytes
              (retainedLength (some body))).updateSource key fun _ =>
                (absorbed.source.settleRecord projected prepared record).retain (some body) := by
        simp only [State.updateSource, State.exchangeRetained,
          State.releaseRetained, OrderedMap.modify_modify]
        rfl
      rw [← same]
      exact exchanged

theorem changes_ingestPrepared
    (record : MediaRecord)
    (prepared : Option PreparedRaster) :
    Changes state
      (ingestPrepared protocol state key record source prepared).1 := by
  unfold ingestPrepared
  simp only
  split
  · exact .refl
  · rename_i absorbed result
    have fits := absorb_fits protocol result
    have seen := quiet_setSource found fits.1
    have there := find?_updateSource_self found fun _ => absorbed.source
    split
    · have tried : Changes _ _ := .single (.tryRetain _ key _ there)
      rw [fits.1.retainedBytes] at tried
      exact seen.changes.trans tried
    · rename_i room
      have kept := changes_keepRecord found fits (state.isProjected key)
        prepared record (Nat.le_of_not_lt room)
      have thereExchanged : ((state.updateSource key fun _ =>
          absorbed.source).exchangeRetained source.retainedBytes
            (retainedLength absorbed.retained)).sources.find? key =
              some absorbed.source := there
      have thereKept := find?_updateSource_self thereExchanged
        fun _ => (absorbed.source.settleRecord (state.isProjected key)
          prepared record).retain absorbed.retained
      generalize (absorbed.source.settleRecord (state.isProjected key)
        prepared record).retain absorbed.retained = settled at *
      generalize ((state.updateSource key fun _ =>
        absorbed.source).exchangeRetained source.retainedBytes
          (retainedLength absorbed.retained)).updateSource key
            (fun _ => settled) = keptState at *
      have hydrated := quiet_hydrated keptState (settled.descriptor.isImage &&
        decide (0 < retainedLength absorbed.retained) &&
        decide (source.retainedBytes = 0))
      have told := hydrated.trans (quiet_advanceSource protocol _ key
        [.epoch, .milestones, .creditAccounting])
      split
      · exact kept.trans told.changes
      · obtain ⟨current, foundNow, same⟩ :=
          told.sources.exists_after thereKept
        exact (kept.trans told.changes).trans
          (changes_deliverRecord foundNow same.serial record _ _ _)

end

section

variable (key : SourceKey)

theorem changes_ingestRecord
    (record : MediaRecord)
    (now : Nat) :
    Changes state (ingestRecord protocol state key record now).1 := by
  unfold ingestRecord
  have paid := changes_consumeSourceCredit state key record.length
  simp only
  split
  · exact paid
  · split
    · exact paid
    · rename_i source found
      split
      · exact paid.trans (changes_ingestPrepared protocol found record none)
      · exact paid
      · rename_i reason notify _
        have marked : Quiet (consumeSourceCredit state key record.length).1
            ((consumeSourceCredit state key record.length).1.updateSource key
              fun source =>
                { source with rasterRequiresFullReason := some reason }) := by
          apply quiet_updateSource
          exact fun source _ => { Source.Quiet.refl source with }
        exact (paid.trans marked.changes).trans
          (changes_prepareCreditReturn _ key record.length)
      · rename_i prepared _
        exact paid.trans
          (changes_ingestPrepared protocol found record (some prepared))

theorem changes_dropQueued
    (delivery : Nat) : Changes state (dropQueued state key delivery).1 := by
  unfold dropQueued
  have released := changes_takeDelivery state delivery
  simp only
  split
  · exact released
  · split
    · refine released.trans (Quiet.changes ?_)
      apply quiet_updateSource
      exact fun source _ => { Source.Quiet.refl source with }
    · exact released

theorem quiet_rejectionReplies
    (ticket : Ticket)
    (reason : FullFrameReason)
    (notify : Bool)
    (credit : DeliveryCredit) :
    Quiet state
      (Presenter.rejectionReplies state ticket reason notify credit) := by
  unfold Presenter.rejectionReplies
  split
  · refine Quiet.trans (quiet_write state ticket.source.producer
      (.error ticket.source.object 0 .badState
        "raster delta requires a new full frame")) ?_
    refine Quiet.trans ?_ (quiet_writeDeliveryCredit _ _)
    split
    · exact quiet_write _ _ _
    · exact .refl _
  · exact .refl _

/-! ## Life of a source -/

/-- A source is entered at most once. -/
theorem does_createSource
    (creation : SourceCreation)
    (token now : Nat) :
    Does protocol (some (.createSource producerId creation token now)) state
      (createSource protocol state producerId creation token now).1 := by
  unfold createSource
  split
  · exact .inl .refl
  · rename_i maximum valid
    simp only
    split
    · exact .inl .refl
    · split
      · exact .inl .refl
      · split
        · exact .inl .refl
        · rename_i few fits fresh
          refine Performs.does protocol (.createSource state producerId
            creation maximum token now valid (by omega) (by omega) fresh)
            (Quiet.changes ?_)
          refine Quiet.trans ?_ (quiet_advanceProjection _)
          unfold SourceCreation.key
          split
          · exact { Quiet.refl _ with }
          · exact .refl _

theorem quiet_announceSource : Quiet state (announceSource protocol state key).1 :=
  (notified_emitSourceEvent protocol state key _).quiet

theorem does_takeTicket
    (token : Nat) :
    Does protocol (some (.presentTicket token)) state
      (takeTicket state token).1 := by
  unfold takeTicket
  cases found : state.tickets.find? token with
  | none => exact .inl .refl
  | some ticket =>
      have taken := Performs.does protocol
        (.presentTicket state token ticket found) .refl
      simp only
      split
      · exact taken
      · exact taken

theorem does_attachChannel
    (token : Nat)
    (ticket : Ticket) :
    Does protocol (some (.attachChannel token ticket)) state
      (attachChannel protocol state token ticket).1 := by
  unfold attachChannel
  cases found : state.sources.find? ticket.source with
  | none => exact .inl .refl
  | some source =>
      simp only
      split
      · exact .inl .refl
      · rename_i generation counted
        obtain ⟨-, rfl⟩ := checkedAdd_eq_some_iff.mp counted
        have attached : state.updateSource ticket.source
            (fun current =>
              { current with
                attachmentGeneration := source.attachmentGeneration + 1
                attachmentState := .attached
                milestones := .mediaAttached :: current.milestones
                attachedWith := token :: current.attachedWith }) =
            state.updateSource ticket.source
              fun source => source.attach token :=
          State.updateSource_congr found rfl
        rw [attached]
        exact Performs.does protocol
          (.attachChannel state token ticket source found)
          (quiet_advanceSource protocol _ _ _).changes

theorem mild_closeChannel : Mild state (closeChannel protocol state key) := by
  unfold closeChannel
  split
  · refine Mild.trans ?_ (mild_advanceSource protocol _ _ _)
    apply mild_updateSource
    · exact fun source => { Source.Quiet.refl source with }
    · exact fun _ => Source.drifts_of_eq rfl rfl rfl rfl rfl rfl rfl id
  · exact .refl _

theorem mild_controlled
    (source : Source)
    (play : Option PlayRequest)
    (changed : Bool)
    (causation : Option Nat)
    (now : Nat) :
    source.Quiet (source.controlled play changed causation now) ∧
      source.Drifts (source.controlled play changed causation now) := by
  unfold Source.controlled
  cases play with
  | none =>
      exact ⟨{ Source.Quiet.refl source with },
        Source.drifts_of_eq rfl rfl rfl rfl rfl rfl rfl id⟩
  | some request =>
      simp only
      split
      · exact ⟨{ Source.Quiet.refl source with },
          Source.drifts_of_eq rfl rfl rfl rfl rfl rfl rfl id⟩
      · exact ⟨{ Source.Quiet.refl source with },
          Source.drifts_of_eq rfl rfl rfl rfl rfl rfl rfl id⟩

theorem mild_setPlayback
    (play : Option PlayRequest)
    (causation : Option Nat)
    (now : Nat) :
    Mild state (setPlayback protocol state key play causation now).1 := by
  unfold setPlayback
  split
  · exact .refl _
  · split
    · exact .refl _
    · rename_i source _ _
      simp only
      generalize (source.playing != play.isSome ||
        play.any fun request => request != source.playRequest) = changed
      have controls : Mild state (state.updateSource key fun source =>
          source.controlled play changed causation now) := by
        apply mild_updateSource
        · exact fun source =>
            (mild_controlled source play changed causation now).1
        · exact fun source =>
            (mild_controlled source play changed causation now).2
      generalize (state.updateSource key fun source =>
        source.controlled play changed causation now) = controlled at *
      split
      · have marked : Mild controlled
            (if (play.isSome && !controlled.events) = true then
              controlled.updateSource key fun source =>
                { source with
                  milestones := .playbackStarted :: source.milestones }
            else controlled) := by
          split
          · apply mild_updateSource
            · exact fun source => { Source.Quiet.refl source with }
            · exact fun _ => Source.drifts_of_eq rfl rfl rfl rfl rfl rfl rfl id
          · exact .refl _
        have told := (controls.trans marked).trans
          (mild_advanceSource protocol _ key [.playback, .milestones])
        split
        · exact told
        · exact told.trans (mild_advanceProjection _)
      · exact controls

theorem does_flushSource
    (epoch : Nat)
    (causation : Option Nat) :
    Does protocol (some (.flushSource key epoch causation)) state
      (flushSource protocol state key epoch causation).1 := by
  unfold flushSource
  split
  · rename_i present
    rw [← OrderedMap.find?_isSome_iff] at present
    obtain ⟨source, found⟩ := Option.isSome_iff_exists.mp present
    exact Performs.does protocol
      (.flushSource state key source epoch causation found)
      (quiet_advanceSource protocol _ _ _).changes
  · exact .inl .refl

end

/-- Behind the end of the source nothing happens but notifications. -/
theorem quiet_applyInnerEos
    {state : State}
    (found : state.sources.find? key = some source)
    (epoch : Nat)
    (causation : Option Nat) :
    Quiet (state.updateSource key fun source => source.finished epoch causation)
      (applyInnerEos protocol state key epoch causation).1 := by
  have present : key ∈ state.sources := OrderedMap.mem_of_find?_eq_some found
  have told := quiet_advanceSource protocol
    (state.updateSource key fun source => source.finished epoch causation)
    key [.lifecycle, .playback, .milestones]
  unfold applyInnerEos
  rw [if_pos present]
  simp only
  split
  · exact told
  · exact told.trans (quiet_advanceProjection _)

theorem does_applyInnerEos
    (key : SourceKey)
    (epoch : Nat)
    (causation : Option Nat) :
    Does protocol (some (.endSource key epoch causation)) state
      (applyInnerEos protocol state key epoch causation).1 := by
  cases found : state.sources.find? key with
  | none =>
      have absent : key ∉ state.sources :=
        (OrderedMap.find?_eq_none_iff _ _).mp found
      unfold applyInnerEos
      rw [if_neg absent]
      exact .inl .refl
  | some source =>
      exact Performs.does protocol
        (.endSource state key source epoch causation found)
        (quiet_applyInnerEos protocol found epoch causation).changes

theorem does_removeSource
    (key : SourceKey) :
    Does protocol (some (.destroySource key)) state
      (removeSource protocol state key).1 := by
  unfold removeSource
  cases found : state.sources.find? key with
  | none => exact .inl .refl
  | some source =>
      have removed : Performs protocol state (.destroySource key) _ :=
        .destroySource state key source found
      simp only
      split
      · have told := quiet_advanceScene protocol
          { state.dropSource key source with
            nodes := state.nodes.filter fun _ node => node.source != key }
          key.producer .sourceLoss
        split
        · exact Performs.does protocol removed told.changes
        · exact Performs.does protocol removed
            (told.trans (quiet_advanceProjection _)).changes
      · exact Performs.does protocol removed
          (quiet_advanceProjection _).changes

end Media
end Vvmux
