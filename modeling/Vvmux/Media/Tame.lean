import Vvmux.Media.Steps

/-!
# What most steps leave alone

Few functions of the presenter touch the scene, admit a producer or let one go,
add to a transaction, or enter a delivery.  All others are tame: the nodes stay
as they are, the same producers and sources are there, a static source goes on
retaining what it retains, and transactions and deliveries at most go.
-/

namespace Vvmux
namespace Media

open Library

variable (protocol : Protocol)

/-- A source stays what it is, and retains something if it is static and
did. -/
structure Source.Keeps (before after : Source) : Prop where
  descriptor : after.descriptor = before.descriptor
  retained : before.descriptor.isStatic = true →
    before.retained.isSome = true → after.retained.isSome = true

theorem Source.Keeps.refl (source : Source) : source.Keeps source :=
  ⟨rfl, fun _ retains => retains⟩

theorem Source.Keeps.trans
    {first second third : Source}
    (before : first.Keeps second)
    (after : second.Keeps third) : first.Keeps third where
  descriptor := after.descriptor.trans before.descriptor
  retained static retains := by
    refine after.retained ?_ (before.retained static retains)
    rw [before.descriptor]
    exact static

theorem Source.Quiet.keeps
    {before after : Source}
    (quiet : before.Quiet after) : before.Keeps after where
  descriptor := quiet.descriptor
  retained _ retains := by
    rw [quiet.retained]
    exact retains

/-- The scene and who is there stay as they are, and nothing is buffered. -/
structure Still (before after : State) : Prop where
  producers : ∀ producer,
    producer ∈ after.producers ↔ producer ∈ before.producers
  nodes : after.nodes = before.nodes
  sources : before.sources.Related Source.Keeps after.sources
  transactions : ∀ key mutations,
    after.transactions.find? key = some mutations →
      before.transactions.find? key = some mutations

/-- Besides, no delivery is entered. -/
structure Tame (before after : State) : Prop extends Still before after where
  deliveries : ∀ delivery, delivery ∈ after.deliveries →
    delivery ∈ before.deliveries

theorem Still.refl (state : State) : Still state state :=
  ⟨fun _ => Iff.rfl, rfl, .refl Source.Keeps.refl _, fun _ _ found => found⟩

variable {first second third before after : State} (state : State)
  {source : Source} (session : Session)

theorem Still.trans
    (before : Still first second)
    (after : Still second third) : Still first third where
  producers producer :=
    (after.producers producer).trans (before.producers producer)
  nodes := after.nodes.trans before.nodes
  sources := before.sources.trans
    (fun _ _ _ => Source.Keeps.trans) after.sources
  transactions key mutations found :=
    before.transactions key mutations (after.transactions key mutations found)

theorem Tame.refl (state : State) : Tame state state :=
  ⟨.refl state, fun _ present => present⟩

theorem Tame.trans
    (before : Tame first second)
    (after : Tame second third) : Tame first third where
  toStill := before.toStill.trans after.toStill
  deliveries delivery present :=
    before.deliveries delivery (after.deliveries delivery present)

theorem Quiet.tame (quiet : Quiet before after) : Tame before after where
  producers := quiet.producers.mem_iff
  nodes := quiet.nodes
  sources := quiet.sources.weaken fun _ _ same => same.keeps
  transactions := by
    rw [quiet.transactions]
    exact fun _ _ found => found
  deliveries := by
    rw [quiet.deliveries]
    exact fun _ present => present

/-- Nothing changes but tables that do not matter here. -/
theorem tame_of_eq
    (producers : after.producers = before.producers)
    (nodes : after.nodes = before.nodes)
    (sources : after.sources = before.sources)
    (transactions : after.transactions = before.transactions)
    (deliveries : after.deliveries = before.deliveries) :
    Tame before after := by
  refine ⟨⟨?_, nodes, ?_, ?_⟩, ?_⟩
  · rw [producers]
    exact fun _ => Iff.rfl
  · rw [sources]
    exact .refl Source.Keeps.refl _
  · rw [transactions]
    exact fun _ _ found => found
  · rw [deliveries]
    exact fun _ present => present

theorem tame_updateSource
    (key : SourceKey)
    (change : Source → Source)
    (keeps : ∀ source, state.sources.find? key = some source →
      source.Keeps (change source)) :
    Tame state (state.updateSource key change) where
  producers _ := Iff.rfl
  nodes := rfl
  sources := OrderedMap.related_modify Source.Keeps.refl _ _ _ keeps
  transactions _ _ found := found
  deliveries _ present := present

variable {key : SourceKey}

/-- Rewriting a source that is there by a version of it. -/
theorem tame_setSource
    {state : State}
    {source after : Source}
    (found : state.sources.find? key = some source)
    (keeps : source.Keeps after) :
    Tame state (state.updateSource key fun _ => after) := by
  apply tame_updateSource
  intro current here
  rw [found] at here
  cases here
  exact keeps

theorem tame_updateProducer
    (producer : ProducerId)
    (change : Producer → Producer) :
    Tame state (state.updateProducer producer change) where
  producers _ := OrderedMap.mem_modify _ _ _ _
  nodes := rfl
  sources := .refl Source.Keeps.refl _
  transactions _ _ found := found
  deliveries _ present := present

/-! ## Credit and deliveries -/

theorem tame_consumeSourceCredit
    (key : SourceKey)
    (bytes : Nat) : Tame state (consumeSourceCredit state key bytes).1 := by
  unfold consumeSourceCredit
  split
  · exact .refl state
  split
  · exact .refl state
  split
  · apply tame_updateSource
    exact fun _ _ => ⟨rfl, fun _ retains => retains⟩
  split
  · apply tame_updateSource
    exact fun _ _ => ⟨rfl, fun _ retains => retains⟩
  · apply tame_updateSource
    exact fun _ _ => ⟨rfl, fun _ retains => retains⟩

theorem tame_prepareCreditReturn
    (key : SourceKey)
    (bytes packets : Nat) :
    Tame state (prepareCreditReturn state key bytes packets).1 := by
  unfold prepareCreditReturn
  split
  · exact .refl state
  · rename_i found
    split
    · exact .refl state
    · dsimp only
      split
      · exact tame_setSource found ⟨rfl, fun _ retains => retains⟩
      · exact tame_setSource found ⟨rfl, fun _ retains => retains⟩

theorem tame_returnCredit
    (key : SourceKey)
    (bytes : Nat) : Tame state (returnCredit state key bytes) :=
  (tame_prepareCreditReturn state key bytes 1).trans
    (quiet_writeDeliveryCredit _ _).tame

theorem tame_dropDelivery
    (delivery : Nat)
    (pending : PendingDelivery) :
    Tame state (state.dropDelivery delivery pending) where
  producers _ := Iff.rfl
  nodes := rfl
  sources := .refl Source.Keeps.refl _
  transactions _ _ found := found
  deliveries _ present := ((OrderedMap.mem_erase _ _ _).mp present).1

theorem tame_takeDelivery
    (delivery : Nat) : Tame state (takeDelivery state delivery) := by
  unfold takeDelivery
  split
  · exact .refl state
  · exact (tame_dropDelivery state delivery _).trans
      (tame_returnCredit _ _ _)

theorem tame_takeDeliveries
    (deliveries : List Nat) : Tame state (takeDeliveries state deliveries) := by
  unfold takeDeliveries
  induction deliveries generalizing state with
  | nil => exact .refl state
  | cons delivery rest ih =>
      exact (tame_takeDelivery state delivery).trans (ih _)

/-- A delivery that is taken is not there any more. -/
theorem not_mem_takeDelivery
    (delivery : Nat) : delivery ∉ (takeDelivery state delivery).deliveries := by
  unfold takeDelivery
  split
  · rename_i missing
    exact (OrderedMap.find?_eq_none_iff _ _).mp missing
  · intro present
    have dropped := (tame_returnCredit _ _ _).deliveries delivery present
    exact ((OrderedMap.mem_erase _ _ _).mp dropped).2 rfl

/-- Of the deliveries that are taken none is left. -/
theorem not_mem_takeDeliveries
    {state : State}
    {deliveries : List Nat}
    {delivery : Nat}
    (listed : delivery ∈ deliveries) :
    delivery ∉ (takeDeliveries state deliveries).deliveries := by
  induction deliveries generalizing state with
  | nil => cases listed
  | cons head rest ih =>
      rcases List.mem_cons.mp listed with rfl | later
      · intro present
        exact not_mem_takeDelivery state delivery
          ((tame_takeDeliveries (takeDelivery state delivery)
            rest).deliveries delivery present)
      · exact ih later

theorem tame_cancelSourceDeliveries
    (source : SourceKey) : Tame state (cancelSourceDeliveries state source) :=
  tame_takeDeliveries state _

/-! ## Calls of the session -/

theorem tame_updateMetrics
    (pane : PaneId)
    (columns rows cellWidth cellHeight : Nat) :
    Tame state
      (updateMetrics state pane columns rows cellWidth cellHeight) := by
  unfold updateMetrics
  dsimp only
  split
  · exact .refl state
  · refine Tame.trans ?_ (quiet_foldl _ (fun state producer =>
      quiet_writeIfConnected state producer _) _ _).tame
    exact tame_of_eq rfl rfl rfl rfl rfl

theorem tame_observeMarker
    (pane : PaneId)
    (marker : Marker)
    (line : Int)
    (column : Nat) :
    Tame state (observeMarker protocol state pane marker line column) := by
  unfold observeMarker
  split
  · exact .refl state
  · split
    · exact .refl state
    · have told := fun state producer =>
        ((quiet_advanceScene protocol state producer .producerCommit).trans
          (quiet_advanceProjection _)).tame
      exact ((tame_updateProducer state _ _).trans (told _ _)).trans
        (quiet_write _ _ _).tame

theorem tame_projectionSnapshot
    (panes : List PaneId)
    (viewportOffset : PaneId → Nat) :
    Tame state (projectionSnapshot protocol state panes viewportOffset) := by
  unfold projectionSnapshot
  dsimp only
  refine Tame.trans ?_ (quiet_advanceSources protocol _ _ _).tame
  have projected : Tame state
      { state with
        projectedSources :=
          (state.snapshotSources panes viewportOffset).map Prod.fst } :=
    tame_of_eq rfl rfl rfl rfl rfl
  have released := projected.trans (tame_takeDeliveries _
    (state.deliveries.filter fun _ pending =>
      !((state.snapshotSources panes viewportOffset).map
        Prod.fst).contains pending.source).keys)
  exact released.trans (tame_of_eq rfl rfl rfl rfl rfl)

theorem tame_deactivateBridge
    (state : State) : Tame state (deactivateBridge state) := by
  unfold deactivateBridge
  refine Tame.trans ?_ (tame_takeDeliveries _ state.deliveries.keys)
  refine ⟨⟨fun _ => Iff.rfl, rfl, ?_, fun _ _ found => found⟩,
    fun _ present => present⟩
  apply OrderedMap.related_mapValues
  intro _ source
  split
  · exact ⟨rfl, fun _ retains => retains⟩
  · exact .refl source

theorem tame_completeBridgeDelivery
    (delivery : Nat)
    (delivered : Bool) :
    Tame state
      (completeBridgeDelivery protocol state delivery delivered).1 := by
  unfold completeBridgeDelivery
  split
  · exact .refl state
  · dsimp only
    refine Tame.trans ?_ (tame_returnCredit _ _ _)
    exact ((tame_dropDelivery state delivery _).trans
      (mild_concludeDelivery _ _ _).quiet.tame).trans
        (quiet_advanceSource protocol _ _ _).tame

/-! ## Ingest -/

theorem Absorbed.Fits.keeps
    {absorbed : Absorbed}
    (fits : absorbed.Fits source)
    (projected : Bool)
    (prepared : Option PreparedRaster)
    (record : MediaRecord) :
    source.Keeps ((absorbed.source.settleRecord projected prepared
      record).retain absorbed.retained) := by
  have settled := (fits.1.trans (quiet_settleRecord absorbed.source projected
    prepared record)).keeps
  refine settled.trans ?_
  unfold Source.retain
  split
  · exact .refl _
  · exact ⟨rfl, fun _ _ => rfl⟩

/-- A record enters at most the delivery that it is sent on as. -/
structure Enters
    (before after : State)
    (result : Except String Ingested) : Prop where
  still : Still before after
  deliveries : ∀ delivery, delivery ∈ after.deliveries →
    delivery ∈ before.deliveries ∨
      ∃ event keyframe, result = .ok (.accepted (some event) keyframe) ∧
        event.deliveryId = delivery

theorem Tame.enters
    (tame : Tame before after)
    (result : Except String Ingested) : Enters before after result :=
  ⟨tame.toStill, fun delivery present =>
    .inl (tame.deliveries delivery present)⟩

theorem Enters.behind
    {result : Except String Ingested}
    (enters : Enters second third result)
    (before : Tame first second) : Enters first third result where
  still := before.toStill.trans enters.still
  deliveries delivery present :=
    (enters.deliveries delivery present).imp_left (before.deliveries delivery)

theorem enters_deliverRecord
    (key : SourceKey)
    (record : MediaRecord)
    (source : Source)
    (forward : Bool)
    (body : ForwardBody × Nat)
    (recovered : Option (Nat × Int)) :
    Enters state
      (deliverRecord state key record source forward body recovered).1
      (deliverRecord state key record source forward body recovered).2 := by
  unfold deliverRecord
  split
  · split
    · exact (Tame.refl state).enters _
    · rename_i delivery numbered
      refine ⟨⟨fun _ => Iff.rfl, rfl, .refl Source.Keeps.refl _,
        fun _ _ found => found⟩, ?_⟩
      intro query present
      rcases (OrderedMap.mem_insert _ _ _ _).mp present with new | old
      · exact .inr ⟨_, _, rfl, new.symm⟩
      · exact .inl old
  · refine Tame.enters (Tame.trans ?_ (tame_returnCredit _ _ _)) _
    split
    · apply tame_updateSource
      exact fun _ _ => ⟨rfl, fun _ retains => retains⟩
    · exact .refl state

theorem enters_ingestPrepared
    {state : State}
    (found : state.sources.find? key = some source)
    (record : MediaRecord)
    (prepared : Option PreparedRaster) :
    Enters state
      (ingestPrepared protocol state key record source prepared).1
      (ingestPrepared protocol state key record source prepared).2 := by
  unfold ingestPrepared
  dsimp only
  split
  · exact (Tame.refl state).enters _
  · rename_i absorbed result
    have fits := absorb_fits protocol result
    have seen := tame_setSource found fits.1.keeps
    split
    · refine Tame.enters ?_ _
      exact seen.trans (tame_of_eq rfl rfl rfl rfl rfl)
    · have kept : Tame state
          (((state.updateSource key fun _ =>
            absorbed.source).exchangeRetained source.retainedBytes
              (retainedLength absorbed.retained)).updateSource key fun _ =>
                (absorbed.source.settleRecord (state.isProjected key) prepared
                  record).retain absorbed.retained) := by
        refine ⟨⟨fun _ => Iff.rfl, rfl, ?_, fun _ _ found => found⟩,
          fun _ present => present⟩
        show state.sources.Related Source.Keeps
          ((state.sources.modify key fun _ => absorbed.source).modify key
            fun _ => _)
        rw [OrderedMap.modify_modify]
        apply OrderedMap.related_modify Source.Keeps.refl
        intro current here
        rw [found] at here
        cases here
        exact fits.keeps _ prepared record
      generalize (absorbed.source.settleRecord (state.isProjected key)
        prepared record).retain absorbed.retained = settled at *
      generalize ((state.updateSource key fun _ =>
        absorbed.source).exchangeRetained source.retainedBytes
          (retainedLength absorbed.retained)).updateSource key
            (fun _ => settled) = keptState at *
      have hydrated := quiet_hydrated keptState (settled.descriptor.isImage &&
        decide (0 < retainedLength absorbed.retained) &&
        decide (source.retainedBytes = 0))
      have told := kept.trans (hydrated.trans (quiet_advanceSource protocol _
        key [.epoch, .milestones, .creditAccounting])).tame
      split
      · exact told.enters _
      · exact (enters_deliverRecord _ _ _ _ _ _ _).behind told

theorem enters_ingestRecord
    (key : SourceKey)
    (record : MediaRecord)
    (now : Nat) :
    Enters state (ingestRecord protocol state key record now).1
      (ingestRecord protocol state key record now).2 := by
  unfold ingestRecord
  have paid := tame_consumeSourceCredit state key record.length
  dsimp only
  split
  · exact paid.enters _
  · split
    · exact paid.enters _
    · rename_i source found
      split
      · exact (enters_ingestPrepared protocol found record none).behind paid
      · exact paid.enters _
      · refine Tame.enters (paid.trans (Tame.trans ?_
          (tame_prepareCreditReturn _ key record.length 1))) _
        apply tame_updateSource
        exact fun _ _ => ⟨rfl, fun _ retains => retains⟩
      · exact (enters_ingestPrepared protocol found record
          (some _)).behind paid

theorem tame_dropQueued
    (key : SourceKey)
    (delivery : Nat) : Tame state (dropQueued state key delivery).1 := by
  unfold dropQueued
  have released := tame_takeDelivery state delivery
  dsimp only
  split
  · exact released
  · split
    · refine released.trans ?_
      apply tame_updateSource
      exact fun _ _ => ⟨rfl, fun _ retains => retains⟩
    · exact released

/-! ## Life of a source -/

theorem tame_takeTicket
    (token : Nat) : Tame state (takeTicket state token).1 := by
  unfold takeTicket
  split
  · exact .refl state
  · dsimp only
    split
    · exact tame_of_eq rfl rfl rfl rfl rfl
    · exact tame_of_eq rfl rfl rfl rfl rfl

theorem tame_attachChannel
    (token : Nat)
    (ticket : Ticket) :
    Tame state (attachChannel protocol state token ticket).1 := by
  unfold attachChannel
  split
  · exact .refl state
  · split
    · exact .refl state
    · refine Tame.trans ?_ (quiet_advanceSource protocol _ _ _).tame
      apply tame_updateSource
      exact fun _ _ => ⟨rfl, fun _ retains => retains⟩

theorem tame_flushSource
    (key : SourceKey)
    (epoch : Nat)
    (causation : Option Nat) :
    Tame state (flushSource protocol state key epoch causation).1 := by
  unfold flushSource
  split
  · refine Tame.trans ?_ (quiet_advanceSource protocol _ _ _).tame
    apply tame_updateSource
    exact fun _ _ => ⟨rfl, fun _ retains => retains⟩
  · exact .refl state

/-- The poster of a static source outlives its end. -/
theorem Source.keeps_finished
    (source : Source)
    (epoch : Nat)
    (causation : Option Nat) :
    source.Keeps (source.finished epoch causation) := by
  unfold Source.finished
  dsimp only
  split
  · exact ⟨rfl, fun _ retains => retains⟩
  · rename_i timed
    exact ⟨rfl, fun static _ => absurd static timed⟩

theorem tame_applyInnerEos
    (key : SourceKey)
    (epoch : Nat)
    (causation : Option Nat) :
    Tame state (applyInnerEos protocol state key epoch causation).1 := by
  cases found : state.sources.find? key with
  | none =>
      unfold applyInnerEos
      rw [if_neg ((OrderedMap.find?_eq_none_iff _ _).mp found)]
      exact .refl state
  | some source =>
      refine Tame.trans ?_
        (quiet_applyInnerEos protocol found epoch causation).tame
      apply tame_updateSource
      exact fun source _ => source.keeps_finished epoch causation

/-! ## Control records -/

theorem tame_registerWait
    (state : State)
    (request : Nat)
    (wait : PendingSourceWait) :
    Tame state (registerWait session state request wait).1 := by
  unfold registerWait
  split
  · exact .refl state
  · split
    · exact .refl state
    · dsimp only
      split
      · exact tame_updateProducer _ _ _
      · exact tame_updateProducer _ _ _

theorem tame_waitSource
    (state : State)
    (record : ControlRecord)
    (parsed : Except String (Envelope × WaitRequest)) :
    Tame state (waitSource protocol session state record parsed).1 := by
  unfold waitSource
  split
  · exact .refl state
  · dsimp only
    split
    · exact .refl state
    · split
      · exact .refl state
      · split
        · exact (quiet_respond _ _ _).tame
        · split
          · exact (quiet_respond _ _ _).tame
          · split
            · exact (quiet_respondEncoded _ _ _ _).tame
            · exact tame_registerWait _ _ _ _

theorem tame_closeTransaction
    (key : ObjectKey) :
    Tame state
      { state with transactions := state.transactions.erase key } := by
  refine ⟨⟨fun _ => Iff.rfl, rfl, .refl Source.Keeps.refl _, ?_⟩,
    fun _ present => present⟩
  intro query mutations found
  rw [OrderedMap.find?_erase] at found
  split at found
  · cases found
  · exact found

theorem tame_abortTxn
    (state : State)
    (parsed : Except String Envelope) :
    Tame state (abortTxn session state parsed).1 := by
  unfold abortTxn
  split
  · exact .refl state
  · split
    · exact .refl state
    · exact (tame_closeTransaction state _).trans (quiet_respond _ _ _).tame

theorem tame_startPause
    (state : State)
    (parsed : Except String (Envelope × Nat)) :
    Tame state (startPause session state parsed).1 := by
  unfold startPause
  split
  · exact .refl state
  · exact tame_cancelSourceDeliveries _ _

theorem tame_startFlush
    (state : State)
    (parsed : Except String (Envelope × Nat × Nat)) :
    Tame state (startFlush session state parsed).1 := by
  unfold startFlush
  split
  · exact .refl state
  · exact tame_cancelSourceDeliveries _ _

end Media
end Vvmux
