import Vvmux.Media.Refusals

/-!
# What most steps leave of a source's media

Few functions of the presenter change the frame a raster source retains or the
key frame a video source waits for.  Under all others a source drifts: at most
a new full frame is needed, and a desynchronization is found.
-/

namespace Vvmux
namespace Media

open Library

variable (protocol : Protocol)

variable {before after : State} {presenter : Presenter} {event : PresenterEvent}

theorem drifts_setSource
    {state : State}
    {key : SourceKey}
    {source after : Source}
    (found : state.sources.find? key = some source)
    (drifts : source.Drifts after) :
    Drifts state (state.updateSource key fun _ => after) := by
  apply evolves_updateSource Source.Drifts.refl
  intro current here
  cases found.symm.trans here
  exact drifts

section

variable (state : State) (key : SourceKey)

/-- Sources that go. -/
theorem drifts_dropSource
    (source : Source) : Drifts state (state.dropSource key source) := by
  intro other current found
  simp only [State.dropSource, OrderedMap.find?_erase] at found
  split at found
  · cases found
  · exact ⟨current, found, .refl current⟩

theorem drifts_foldl
    {α : Type}
    (step : State → α → State)
    (drifts : ∀ state element, Drifts state (step state element))
    (elements : List α)
    (state : State) : Drifts state (elements.foldl step state) := by
  induction elements generalizing state with
  | nil => exact drifts_refl state
  | cons element rest ih =>
      exact (drifts state element).trans (ih _)

theorem SameTables.drifts
    (same : SameTables before after) : Drifts before after :=
  drifts_of_eq same.sources

theorem drifts_advanceSource
    (changed : List SourceChange) :
    Drifts state (advanceSource protocol state key changed).1 :=
  (notified_advanceSource protocol state key changed).drifts

theorem drifts_advanceScene
    (state : State)
    (producer : ProducerId)
    (reason : SceneReason) :
    Drifts state (advanceScene protocol state producer reason).1 :=
  drifts_of_eq (sources_advanceScene protocol state producer reason)

theorem drifts_writeIfConnected
    (state : State)
    (producer : ProducerId)
    (reply : Reply) : Drifts state (state.writeIfConnected producer reply) :=
  (notified_writeIfConnected state producer reply).drifts

/-! ## Credit and deliveries -/

theorem drifts_prepareCreditReturn
    (bytes packets : Nat) :
    Drifts state (prepareCreditReturn state key bytes packets).1 := by
  unfold prepareCreditReturn
  split
  · exact drifts_refl state
  · rename_i found
    split
    · exact drifts_refl state
    · dsimp only
      split
      · exact drifts_setSource found
          (Source.drifts_of_eq rfl rfl rfl rfl rfl rfl rfl id)
      · exact drifts_setSource found
          (Source.drifts_of_eq rfl rfl rfl rfl rfl rfl rfl id)

theorem drifts_returnCredit
    (bytes : Nat) : Drifts state (returnCredit state key bytes) :=
  (drifts_prepareCreditReturn state key bytes 1).trans
    (sameTables_returnCredit state key bytes).drifts

theorem drifts_takeDelivery
    (state : State)
    (delivery : Nat) : Drifts state (takeDelivery state delivery) := by
  unfold takeDelivery
  split
  · exact drifts_refl state
  · rename_i pending _
    have dropped : Drifts state (state.dropDelivery delivery pending) :=
      drifts_of_eq rfl
    exact dropped.trans (drifts_returnCredit _ _ _)

theorem drifts_takeDeliveries
    (state : State)
    (deliveries : List Nat) : Drifts state (takeDeliveries state deliveries) :=
  drifts_foldl takeDelivery drifts_takeDelivery deliveries state

/-- A source that is found to be desynchronized. -/
theorem Source.drifts_desynchronize
    (source : Source) :
    source.Drifts { source with bridgeDesynchronized := true } :=
  Source.drifts_of_eq rfl rfl rfl rfl rfl rfl rfl fun _ => rfl

theorem drifts_dropQueued
    (delivery : Nat) : Drifts state (dropQueued state key delivery).1 := by
  have taken := drifts_takeDelivery state delivery
  unfold dropQueued
  dsimp only
  split
  · exact taken
  · split
    · exact taken.trans (drifts_updateSource _ _ _
        Source.drifts_desynchronize)
    · exact taken

theorem drifts_deliverRecord
    (record : MediaRecord)
    (source : Source)
    (forward : Bool)
    (body : ForwardBody × Nat)
    (recovered : Option (Nat × Int)) :
    Drifts state
      (deliverRecord state key record source forward body recovered).1 := by
  unfold deliverRecord
  split
  · split
    · exact drifts_refl state
    · exact drifts_of_eq rfl
  · refine Evolves.trans ?_ (drifts_returnCredit _ _ _)
    split
    · exact drifts_updateSource _ _ _ Source.drifts_desynchronize
    · exact drifts_refl state

end

/-! ## Calls of the session -/

theorem drifts_pruneOrphanedSources
    (state : State) : Drifts state (pruneOrphanedSources state) :=
  drifts_foldl _ (fun state _ => drifts_dropSource state _ _) _ _

section

variable (state : State)

theorem drifts_cleanupProducer
    (producer : ProducerId)
    (preserve : Bool) :
    Drifts state (cleanupProducer protocol state producer preserve) := by
  unfold cleanupProducer
  split
  · exact drifts_refl state
  · dsimp only
    refine Evolves.trans ?_ (notified_advanceProjection _).drifts
    refine Evolves.trans ?_ (drifts_pruneOrphanedSources _)
    exact drifts_of_eq rfl

theorem drifts_revokePane
    (pane : PaneId) : Drifts state (revokePane protocol state pane) := by
  unfold revokePane
  dsimp only
  generalize State.producersOf _ pane = producers
  have disowned : Drifts state
      { state with capabilities := state.capabilities.erase pane } :=
    drifts_of_eq rfl
  have cleaned := disowned.trans (drifts_foldl
    (fun state producer => cleanupProducer protocol state producer false)
    (fun state producer => drifts_cleanupProducer protocol state producer
      false) producers _)
  refine Evolves.trans ?_ (notified_advanceProjection _).drifts
  refine Evolves.trans cleaned (Evolves.trans ?_ (drifts_of_eq rfl))
  refine Evolves.trans ?_ (drifts_pruneOrphanedSources _)
  exact drifts_of_eq rfl

variable (pane : PaneId)

theorem drifts_updateMetrics
    (columns rows cellWidth cellHeight : Nat) :
    Drifts state
      (updateMetrics state pane columns rows cellWidth cellHeight) := by
  unfold updateMetrics
  dsimp only
  split
  · exact drifts_refl state
  · refine Evolves.trans ?_ (drifts_foldl _ (fun state producer =>
      drifts_writeIfConnected state producer _) _ _)
    exact drifts_of_eq rfl

theorem drifts_observeMarker
    (marker : Marker)
    (line : Int)
    (column : Nat) :
    Drifts state (observeMarker protocol state pane marker line column) := by
  unfold observeMarker
  split
  · exact drifts_refl state
  · split
    · exact drifts_refl state
    · rename_i producerId producer _ _
      dsimp only
      have registered : Drifts state
          (state.registerAnchor producerId marker.anchorId (line, column)) :=
        drifts_of_eq rfl
      exact registered.trans ((drifts_advanceScene protocol _ producerId
        .producerCommit).trans (drifts_of_eq rfl))

theorem drifts_advanceScenes
    (producers : List ProducerId)
    (reason : SceneReason) :
    Drifts state (advanceScenes protocol state producers reason) :=
  drifts_foldl _ (fun state producer =>
    drifts_advanceScene protocol state producer reason) producers state

theorem drifts_advanceSources
    (sources : List SourceKey)
    (changed : List SourceChange) :
    Drifts state (advanceSources protocol state sources changed) :=
  drifts_foldl _ (fun state key =>
    drifts_advanceSource protocol state key changed) sources state

theorem drifts_scrollAnchors
    (lines : Int) : Drifts state (scrollAnchors protocol state pane lines) := by
  unfold scrollAnchors
  refine Evolves.trans ?_ (notified_advanceProjection _).drifts
  refine Evolves.trans ?_ (drifts_advanceScenes protocol _ _ _)
  exact drifts_of_eq rfl

theorem drifts_clearAnchors
    (pane : PaneId) : Drifts state (clearAnchors protocol state pane) := by
  unfold clearAnchors
  dsimp only
  refine Evolves.trans ?_ (notified_advanceProjection _).drifts
  refine Evolves.trans ?_ (drifts_advanceScenes protocol _ _ _)
  refine Evolves.trans ?_ (drifts_pruneOrphanedSources _)
  exact drifts_of_eq rfl

theorem drifts_projectionSnapshot
    (panes : List PaneId)
    (viewportOffset : PaneId → Nat) :
    Drifts state (projectionSnapshot protocol state panes viewportOffset) := by
  unfold projectionSnapshot
  dsimp only
  refine Evolves.trans ?_ (drifts_advanceSources protocol _ _ _)
  have projected : Drifts state
      { state with
        projectedSources :=
          (state.snapshotSources panes viewportOffset).map Prod.fst } :=
    drifts_of_eq rfl
  have released := projected.trans (drifts_takeDeliveries _
    (state.deliveries.filter fun _ pending =>
      !((state.snapshotSources panes viewportOffset).map
        Prod.fst).contains pending.source).keys)
  exact released.trans (drifts_of_eq rfl)

end

section

variable (state : State)

theorem drifts_deactivateBridge : Drifts state (deactivateBridge state) := by
  unfold deactivateBridge
  refine Evolves.trans ?_ (drifts_takeDeliveries _ state.deliveries.keys)
  intro key source found
  rw [OrderedMap.find?_mapValues] at found
  obtain ⟨old, there, rfl⟩ := Option.map_eq_some_iff.mp found
  refine ⟨old, there, ?_⟩
  split
  · exact old.drifts_desynchronize
  · exact .refl old

theorem drifts_completeBridgeDelivery
    (delivery : Nat)
    (delivered : Bool) :
    Drifts state
      (completeBridgeDelivery protocol state delivery delivered).1 := by
  unfold completeBridgeDelivery
  split
  · exact drifts_refl state
  · rename_i pending _
    dsimp only
    refine Evolves.trans ?_ (drifts_returnCredit _ _ _)
    refine Evolves.trans ?_ (drifts_advanceSource protocol _ _ _)
    have dropped : Drifts state (state.dropDelivery delivery pending) :=
      drifts_of_eq rfl
    exact dropped.trans (mild_concludeDelivery _ _ _).drifts

theorem drifts_notifyCapabilitiesChanged : Drifts state (notifyCapabilitiesChanged state) := by
  unfold notifyCapabilitiesChanged
  split
  · exact drifts_refl state
  · refine Evolves.trans ?_ (drifts_foldl _ (fun state producer =>
      drifts_writeIfConnected state producer _) _ _)
    exact drifts_of_eq rfl

/-! ## Life of a source -/

theorem drifts_takeTicket
    (token : Nat) : Drifts state (takeTicket state token).1 := by
  unfold takeTicket
  split
  · exact drifts_refl state
  · dsimp only
    split
    · exact drifts_of_eq rfl
    · exact drifts_of_eq rfl

theorem drifts_attachChannel
    (token : Nat)
    (ticket : Ticket) :
    Drifts state (attachChannel protocol state token ticket).1 := by
  unfold attachChannel
  split
  · exact drifts_refl state
  · split
    · exact drifts_refl state
    · refine Evolves.trans ?_ (drifts_advanceSource protocol _ _ _)
      exact drifts_updateSource _ _ _ fun _ =>
        Source.drifts_of_eq rfl rfl rfl rfl rfl rfl rfl id

theorem Source.drifts_finished
    (source : Source)
    (epoch : Nat)
    (causation : Option Nat) :
    source.Drifts (source.finished epoch causation) := by
  unfold Source.finished
  dsimp only
  split
  · exact Source.drifts_of_eq rfl rfl rfl rfl rfl rfl rfl id
  · rename_i timed
    exact ⟨rfl, ⟨rfl, rfl, fun static => absurd static timed, id⟩,
      ⟨rfl, rfl, rfl, rfl, id⟩⟩

theorem drifts_applyInnerEos
    (key : SourceKey)
    (epoch : Nat)
    (causation : Option Nat) :
    Drifts state (applyInnerEos protocol state key epoch causation).1 := by
  unfold applyInnerEos
  split
  · have finished : Drifts state
        (state.updateSource key fun source =>
          source.finished epoch causation) :=
      drifts_updateSource _ _ _ fun source =>
        source.drifts_finished epoch causation
    have told := finished.trans (drifts_advanceSource protocol _ key
      [.lifecycle, .playback, .milestones])
    dsimp only
    split
    · exact told
    · exact told.trans (notified_advanceProjection _).drifts
  · exact drifts_refl state

theorem drifts_announceSource
    (key : SourceKey) : Drifts state (announceSource protocol state key).1 :=
  (notified_emitSourceEvent protocol state key _).drifts

theorem drifts_removeSource
    (key : SourceKey) : Drifts state (removeSource protocol state key).1 := by
  unfold removeSource
  split
  · exact drifts_refl state
  · rename_i source found
    have dropped := drifts_dropSource state key source
    have cleared : Drifts state
        { state.dropSource key source with
          nodes := (state.dropSource key source).nodes.filter fun _ node =>
            node.source != key } :=
      dropped.trans (drifts_of_eq rfl)
    dsimp only
    split
    · have told := cleared.trans (drifts_advanceScene protocol _ key.producer
        .sourceLoss)
      split
      · exact told
      · exact told.trans (notified_advanceProjection _).drifts
    · exact cleared.trans (notified_advanceProjection _).drifts

theorem drifts_applyTransaction
    (producer : ProducerId)
    (mutations : List Mutation) :
    Drifts state (applyTransaction protocol state producer mutations).1 := by
  unfold applyTransaction
  split
  · exact drifts_refl state
  · rename_i nodes _
    split
    · exact drifts_refl state
    · split
      · exact drifts_refl state
      · have placed : Drifts state { state with nodes := nodes } :=
          drifts_of_eq rfl
        have told := placed.trans (drifts_advanceScene protocol _ producer
          .producerCommit)
        dsimp only
        split
        · exact told
        · exact told.trans (notified_advanceProjection _).drifts

end

/-! ## Control records -/

section Records

variable (session : Session) (state : State) (record : ControlRecord)

theorem drifts_respond
    (reply : Reply) : Drifts state (respond session state reply).1 :=
  (sameTables_respond session state reply).drifts

theorem drifts_respondTo
    (result : State × Except String Unit)
    (reply : Reply) : Drifts result.1 (respondTo session result reply).1 :=
  (sameTables_respondTo session result reply).drifts

theorem drifts_waitSource
    (parsed : Except String (Envelope × WaitRequest)) :
    Drifts state (waitSource protocol session state record parsed).1 := by
  have registered : ∀ request wait,
      Drifts state (registerWait session state request wait).1 := by
    intro request wait
    unfold registerWait
    split
    · exact drifts_refl state
    · split
      · exact drifts_refl state
      · dsimp only
        split
        · exact drifts_of_eq rfl
        · exact drifts_of_eq rfl
  unfold waitSource
  split
  · exact drifts_refl state
  · dsimp only
    split
    · exact drifts_refl state
    · split
      · exact drifts_refl state
      · split
        · exact drifts_respond session state _
        · split
          · exact drifts_respond session state _
          · split
            · exact (sameTables_respondEncoded protocol session state _).drifts
            · exact registered _ _

theorem drifts_beginTxn
    (parsed : Except String Envelope) :
    Drifts state (beginTxn session state parsed).1 := by
  unfold beginTxn
  split
  · exact drifts_refl state
  · split
    · exact drifts_refl state
    · dsimp only
      split
      · exact drifts_of_eq rfl
      · refine Evolves.trans ?_ (drifts_respond session _ _)
        exact drifts_of_eq rfl

theorem drifts_bufferNode
    (mutation : SceneNode → Mutation)
    (parsed : Except String (Envelope × NodeConfig)) :
    Drifts state (bufferNode session state record mutation parsed).1 := by
  unfold bufferNode
  split
  · exact drifts_refl state
  · split
    · exact drifts_refl state
    · split
      · exact drifts_refl state
      · split
        · exact drifts_refl state
        · dsimp only
          split
          · exact drifts_refl state
          · split
            · refine Evolves.trans ?_ (drifts_respond session _ _)
              exact drifts_of_eq rfl
            · exact drifts_refl state

variable (parsed : Except String (Envelope × Nat))

theorem drifts_deleteNode :
    Drifts state (deleteNode session state record parsed).1 := by
  unfold deleteNode
  split
  · exact drifts_refl state
  · split
    · exact drifts_refl state
    · dsimp only
      split
      · refine Evolves.trans ?_ (drifts_respond session _ _)
        exact drifts_of_eq rfl
      · exact drifts_refl state

theorem drifts_commitTxn
    (parsed : Except String Envelope) :
    Drifts state (commitTxn protocol session state parsed).1 := by
  unfold commitTxn
  split
  · exact drifts_refl state
  · split
    · exact drifts_refl state
    · dsimp only
      split
      · exact drifts_refl state
      · refine Evolves.trans ?_ (drifts_respondTo session _ _)
        refine Evolves.trans ?_ (drifts_applyTransaction protocol _ _ _)
        exact drifts_of_eq rfl

theorem drifts_abortTxn
    (parsed : Except String Envelope) :
    Drifts state (abortTxn session state parsed).1 := by
  unfold abortTxn
  split
  · exact drifts_refl state
  · split
    · exact drifts_refl state
    · refine Evolves.trans ?_ (drifts_respond session _ _)
      exact drifts_of_eq rfl

/-- `PAUSE`, `DRAIN` and `FLUSH` begin with their source's deliveries. -/
theorem drifts_startPause :
    Drifts state (startPause session state parsed).1 := by
  unfold startPause
  split
  · exact drifts_refl state
  · exact drifts_takeDeliveries _ _

theorem drifts_startFlush
    (parsed : Except String (Envelope × Nat × Nat)) :
    Drifts state (startFlush session state parsed).1 := by
  unfold startFlush
  split
  · exact drifts_refl state
  · exact drifts_takeDeliveries _ _

theorem drifts_destroySource :
    Drifts state (destroySource protocol session state parsed).1 := by
  unfold destroySource
  split
  · exact drifts_refl state
  · exact (drifts_removeSource protocol state _).trans
      (drifts_respondTo session _ _)

end Records

/-! ## Sources that are created -/

/-- At most a source is entered that has had no part in anything. -/
inductive Born : State → State → Prop
  | none (state : State) : Born state state
  | create (state : State) (key : SourceKey) (source : Source) (token : Nat)
      (ticket : Ticket) :
      key ∉ state.sources → source.serial = state.created →
      source.retained = none → source.pendingKeyframeReason = none →
      Born state (state.enterSource key source token ticket)

/-- At most a source is created, and then the sources drift. -/
def Passes (before after : State) : Prop :=
  ∃ middle, Born before middle ∧ Drifts middle after

theorem Evolves.passes (drifts : Drifts before after) : Passes before after :=
  ⟨before, .none before, drifts⟩

theorem Passes.behind
    {first second third : State}
    (passes : Passes first second)
    (drifts : Drifts second third) : Passes first third := by
  obtain ⟨middle, born, earlier⟩ := passes
  exact ⟨middle, born, earlier.trans drifts⟩

theorem passes_createSource
    (state : State)
    (producer : ProducerId)
    (creation : SourceCreation)
    (token now : Nat) :
    Passes state
      (createSource protocol state producer creation token now).1 := by
  unfold createSource
  split
  · exact (drifts_refl state).passes
  · rename_i maximum _
    dsimp only
    split
    · exact (drifts_refl state).passes
    · split
      · exact (drifts_refl state).passes
      · split
        · exact (drifts_refl state).passes
        · rename_i fresh
          refine ⟨_, .create state ⟨producer, creation.descriptor.sourceId⟩
            (creation.source producer maximum state.created now) token
            { source := ⟨producer, creation.descriptor.sourceId⟩
              kind := creation.descriptor.kind
              maximumBody := maximum.toNat
              serial := state.created } fresh rfl rfl rfl, ?_⟩
          refine Evolves.trans ?_ (notified_advanceProjection _).drifts
          split
          · exact drifts_of_eq rfl
          · exact drifts_refl _

theorem passes_performCreation
    (session : Session)
    (state : State)
    (parsed : Except String SourceCreation)
    (supported : Except String Unit)
    (circumstance : Circumstance) :
    Passes state
      (performCreation protocol session state parsed supported
        circumstance).1 := by
  unfold performCreation
  split
  · exact (drifts_refl state).passes
  · exact (drifts_refl state).passes
  · rename_i creation _
    have created := passes_createSource protocol state session.producer
      creation circumstance.token circumstance.now
    unfold performCreate
    dsimp only
    split
    · exact created
    · split
      · exact created
      · split
        · exact created.behind (drifts_of_eq rfl)
        · exact created

theorem passes_perform
    (session : Session)
    (state : State)
    (record : ControlRecord)
    (circumstance : Circumstance) :
    Passes state (perform protocol session state record circumstance).1 := by
  by_cases mild : record.body.Mild
  · exact (mild_perform protocol session state record circumstance
      mild).drifts.passes
  obtain ⟨objectId, request, body⟩ := record
  cases body with
  | waitSource parsed =>
      exact (drifts_waitSource protocol session state _ parsed).passes
  | createRaster parsed | createImage parsed | createVideo parsed
  | createAudio parsed => exact passes_performCreation ..
  | beginTxn parsed => exact (drifts_beginTxn session state parsed).passes
  | createNode parsed | updateNode parsed =>
      exact (drifts_bufferNode session state _ _ parsed).passes
  | deleteNode parsed =>
      exact (drifts_deleteNode session state _ parsed).passes
  | commitTxn parsed =>
      exact (drifts_commitTxn protocol session state parsed).passes
  | abortTxn parsed => exact (drifts_abortTxn session state parsed).passes
  | destroySource parsed =>
      exact (drifts_destroySource protocol session state parsed).passes
  | pause parsed | drain parsed =>
      exact (drifts_startPause session state parsed).passes
  | flush parsed => exact (drifts_startFlush session state parsed).passes
  | _ => exact (mild trivial).elim

/-- The task is the main part of a `FLUSH`. -/
def Task.isFlush :
    Task → Bool
  | .flush _ _ _ => true
  | _ => false

theorem passes_runTask
    (session : Session)
    (state : State)
    (circumstance : Circumstance)
    {task : Task}
    (other : task.isFlush = false) :
    Passes state (runTask protocol session state circumstance task).1 := by
  unfold runTask
  cases task with
  | check features record =>
      cases features with
      | nil => exact passes_perform protocol session state record circumstance
      | cons feature rest =>
          simp only
          split
          · exact (drifts_refl state).passes
          · exact (drifts_respond session state _).passes
  | announce key => exact (drifts_announceSource protocol state key).passes
  | setPlayback key envelope =>
      exact ((mild_setPlayback protocol state _ _ _ _).drifts.trans
        (drifts_respondTo session _ _)).passes
  | flush key epoch envelope => cases other
  | awaitDeliveries key epoch envelope =>
      simp only
      split
      · exact (drifts_refl state).passes
      · exact (drifts_refl state).passes
  | applyEos key epoch envelope =>
      exact ((drifts_applyInnerEos protocol state key epoch
        envelope.causation).trans (drifts_respondTo session _ _)).passes
  | withdrawBarrier key => exact (drifts_of_eq rfl).passes

/-! ## Steps -/

/-- The steps that change what raster sources retain or what key frame a video
source waits for. -/
def Presenter.steers (presenter : Presenter) (event : PresenterEvent) : Bool :=
  match event with
  | .ingest _ _ _ => true
  | .requestKeyframes _ => true
  | .recover _ => true
  | .run thread _ _ =>
      match presenter.phase? thread with
      | some (.busy _ task) => task.isFlush
      | _ => false
  | _ => false

theorem drifts_sessionStep
    (stepped : sessionStep protocol presenter.shared event = some after)
    (other : presenter.steers event = false) :
    Drifts presenter.shared after := by
  unfold sessionStep at stepped
  split at stepped <;> cases stepped
  · exact drifts_of_eq rfl
  · exact drifts_revokePane protocol _ _
  · exact drifts_updateMetrics _ _ _ _ _ _
  · exact drifts_observeMarker protocol _ _ _ _ _
  · exact drifts_scrollAnchors protocol _ _ _
  · exact drifts_clearAnchors protocol _ _
  · exact drifts_projectionSnapshot protocol _ _ _
  · exact drifts_deactivateBridge _
  · exact drifts_completeBridgeDelivery protocol _ _ _
  · cases other
  · exact drifts_foldl _ (fun state key =>
      (mild_requestFullFrame protocol state key _).drifts) _ _
  · exact (mild_applyOuterPlayback protocol _ _ _).drifts
  · exact drifts_notifyCapabilitiesChanged _
  · exact drifts_of_eq rfl

theorem drifts_admitProducer
    (state : State)
    (pane : PaneId)
    (tag token : Nat)
    (features : List Feature)
    (spawns : Bool) :
    Drifts state
      (admitProducer protocol state pane tag token features spawns).1 := by
  unfold admitProducer
  split
  · exact drifts_refl state
  · split
    · exact drifts_refl state
    · split
      · exact drifts_refl state
      · dsimp only
        split
        · exact drifts_of_eq rfl
        · exact drifts_of_eq rfl

theorem sources_markConnectionPane
    (state : State)
    (connection : Nat)
    (pane : PaneId) :
    (markConnectionPane state connection pane).1.sources = state.sources := by
  unfold markConnectionPane
  split
  · rfl
  · split <;> rfl

/-- What a thread that steers no source makes of the shared state. -/
theorem passes_shift
    {thread : Nat}
    {phase : Phase}
    {state : State}
    (own : event.thread? = some thread)
    (there : presenter.phase? thread = some phase)
    (shift : Shift protocol presenter event phase state)
    (other : presenter.steers event = false) :
    Passes presenter.shared state := by
  cases shift with
  | idle => exact (drifts_refl _).passes
  | marks => exact (drifts_of_eq (sources_markConnectionPane _ _ _)).passes
  | admits =>
      exact (drifts_admitProducer protocol presenter.shared _ _ _ _ _).passes
  | runs _ circumstance writable producer task =>
      cases own
      simp only [Presenter.steers, there] at other
      exact passes_runTask protocol ⟨producer, rootContext producer, writable⟩
        presenter.shared circumstance other
  | leaves =>
      exact (drifts_cleanupProducer protocol presenter.shared _ true).passes
  | takes => exact (drifts_takeTicket _ _).passes
  | attaches => exact (drifts_attachChannel protocol _ _ _).passes
  | ingests => cases other
  | drops => exact (drifts_dropQueued _ _ _).passes
  | recovers => cases other
  | closes => exact (mild_closeChannel protocol _ _).drifts.passes

/-- Under a step that does not steer it a source drifts. -/
theorem passes_presenterStep
    {presenter after : Presenter}
    (stepped : presenterStep protocol presenter event = some after)
    (other : presenter.steers event = false) :
    Passes presenter.shared after.shared := by
  cases advance_of_step protocol stepped with
  | calls _ state stepsTo same =>
      rw [same]
      exact (drifts_sessionStep protocol stepsTo other).passes
  | turns _ _ _ _ own there shift =>
      exact passes_shift protocol own there shift other
  | starts _ _ _ _ accepted =>
      unfold acceptConnection at accepted
      split at accepted
      · cases accepted
      · obtain ⟨same, -⟩ := Prod.mk.inj (Option.some.inj accepted)
        rw [← same]
        exact (drifts_of_eq rfl).passes
  | stops _ _ _ forgotten =>
      rw [forgotten]
      exact (drifts_of_eq rfl).passes
  | stays _ same =>
      rw [same]
      exact (drifts_refl _).passes
  | applies _ _ _ applied =>
      rw [applied]
      exact (drifts_applyInnerEos protocol presenter.shared _ _ _).passes
  | answers _ _ _ _ answered =>
      rw [answered]
      exact (drifts_of_eq rfl).passes
  | expires _ _ _ removed settled =>
      refine (drifts_of_eq ?_).passes
      subst removed
      rcases settled with settled | ⟨reply, settled⟩
      · rw [settled]
        rfl
      · rw [settled]
        rfl

end Media
end Vvmux
