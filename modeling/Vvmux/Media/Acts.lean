import Vvmux.Media.Tame

/-!
# What a step does to the scene

A step begins with at most one act, which the scene, the transactions or the
producers depend on, and is tame behind it.  Only ingest enters a delivery.
-/

namespace Vvmux
namespace Media

open Library

variable (protocol : Protocol)

/-- The producer whose scene a mutation is for. -/
def Mutation.owner :
    Mutation → ProducerId
  | .create node => node.producer
  | .update node => node.producer
  | .delete producer _ => producer

/-- Anchors are forgotten, and with them the nodes that retain one. -/
def State.withoutAnchors (state : State) (pane : PaneId) : State :=
  { state.dropAnchors pane with
    nodes := (state.dropAnchors pane).nodes.filter fun _ node =>
      node.pane != pane || node.retainedAnchor.isNone }

/-- Who acts: a control thread for its producer, while it serves it or when it
leaves, or anyone else. -/
inductive Actor where
  | serving (producer : ProducerId)
  | leaving (producer : ProducerId)
  | other
deriving DecidableEq

/-- What a step can do that is not tame. -/
inductive Act : Actor → State → State → Prop
  | none (actor : Actor) (state : State) : Act actor state state
  | begin (state : State) (key : ObjectKey) :
      Act (.serving key.producer) state
        { state with transactions := state.transactions.insert key [] }
  | buffer (state : State) (key : ObjectKey) (mutation : Mutation) :
      mutation.owner = key.producer →
      (∀ node, mutation.node? = some node →
        key.producer ∈ state.producers) →
      Act (.serving key.producer) state (state.bufferMutation key mutation)
  | commit (state : State) (key : ObjectKey) (mutations : List Mutation)
      (nodes : Nodes) :
      state.transactions.find? key = some mutations →
      applyMutations protocol
        { state with transactions := state.transactions.erase key }
        key.producer state.nodes mutations = .ok nodes →
      Act (.serving key.producer) state
        { state with
          transactions := state.transactions.erase key
          nodes := nodes }
  | create (state : State) (key : SourceKey) (source : Source) (token : Nat)
      (ticket : Ticket) :
      key ∉ state.sources →
      Act (.serving key.producer) state (state.enterSource key source token ticket)
  | destroy (state : State) (key : SourceKey) (source : Source) :
      Act (.serving key.producer) state
        { state.dropSource key source with
          nodes := state.nodes.filter fun _ node => node.source != key }
  | leave (state : State) (producer : ProducerId) :
      Act (.leaving producer) state (cleanupProducer protocol state producer true)
  | scroll (state : State) (pane : PaneId) (lines : Int) :
      Act .other state (state.moveAnchors pane lines)
  | clear (state : State) (pane : PaneId) :
      Act .other state (pruneOrphanedSources (state.withoutAnchors pane))
  | revoke (state : State) (pane : PaneId) :
      Act .other state (revokePane protocol state pane)
  | enter (state : State) (producer : Producer) :
      Act .other state
        ({ state with nextProducer := state.nextProducer + 1 }.enterProducer
          (state.nextProducer + 1) producer)

/-- An act, and tame changes behind it. -/
def Acts (actor : Actor) (before after : State) : Prop :=
  ∃ middle, Act protocol actor before middle ∧ Tame middle after

variable {protocol} in
theorem Acts.behind
    {actor : Actor}
    {first second third : State}
    (acts : Acts protocol actor first second)
    (tame : Tame second third) : Acts protocol actor first third := by
  obtain ⟨middle, act, rest⟩ := acts
  exact ⟨middle, act, rest.trans tame⟩

variable {protocol} in
theorem Act.acts
    {actor : Actor}
    {before after : State}
    (act : Act protocol actor before after) :
    Acts protocol actor before after :=
  ⟨after, act, .refl after⟩

theorem Tame.acts
    {before after : State}
    (tame : Tame before after)
    (actor : Actor) : Acts protocol actor before after :=
  ⟨before, .none actor before, tame⟩

/-! ## Deliveries -/

theorem deliveries_pruneOrphanedSources
    (state : State) :
    (pruneOrphanedSources state).deliveries = state.deliveries := by
  unfold pruneOrphanedSources
  generalize (state.sources.filter fun key _ => state.orphaned key).entries =
    entries
  induction entries generalizing state with
  | nil => rfl
  | cons entry rest ih =>
      exact ih (state.dropSource entry.1 entry.2)

variable (state : State) (session : Session) {presenter after : Presenter}
  {event : PresenterEvent}

theorem deliveries_cleanupProducer
    (producer : ProducerId)
    (preserve : Bool) :
    (cleanupProducer protocol state producer preserve).deliveries =
      state.deliveries := by
  unfold cleanupProducer
  split
  · rfl
  · exact deliveries_pruneOrphanedSources _

theorem deliveries_revokePane
    (pane : PaneId) :
    (revokePane protocol state pane).deliveries = state.deliveries := by
  have cleaned : ∀ (producers : List ProducerId) (state : State),
      (producers.foldl
        (fun state producer => cleanupProducer protocol state producer false)
        state).deliveries = state.deliveries := by
    intro producers
    induction producers with
    | nil => exact fun _ => rfl
    | cons producer rest ih =>
        intro state
        rw [List.foldl_cons, ih, deliveries_cleanupProducer]
  refine (deliveries_pruneOrphanedSources _).trans ?_
  exact cleaned _ _

/-- An act leaves the deliveries alone. -/
theorem Act.deliveries
    {actor : Actor}
    {before after : State}
    (act : Act protocol actor before after) :
    after.deliveries = before.deliveries := by
  cases act with
  | leave producer => exact deliveries_cleanupProducer protocol _ _ _
  | revoke pane => exact deliveries_revokePane protocol _ _
  | clear pane => exact deliveries_pruneOrphanedSources _
  | _ => rfl

variable {protocol} in
/-- So a step that acts enters no delivery. -/
theorem Acts.deliveries
    {actor : Actor}
    {before after : State}
    (acts : Acts protocol actor before after)
    (delivery : Nat)
    (present : delivery ∈ after.deliveries) : delivery ∈ before.deliveries := by
  obtain ⟨middle, act, rest⟩ := acts
  have there := rest.deliveries delivery present
  rwa [act.deliveries protocol] at there

/-! ## Control records -/

theorem acts_createSource
    (producer : ProducerId)
    (creation : SourceCreation)
    (token now : Nat) :
    Acts protocol (.serving producer) state
      (createSource protocol state producer creation token now).1 := by
  unfold createSource
  split
  · exact (Tame.refl state).acts protocol _
  · rename_i maximum valid
    dsimp only
    split
    · exact (Tame.refl state).acts protocol _
    · split
      · exact (Tame.refl state).acts protocol _
      · split
        · exact (Tame.refl state).acts protocol _
        · rename_i few fits fresh
          refine ⟨_, .create state
            ⟨producer, creation.descriptor.sourceId⟩
            (creation.source producer maximum state.created now) token
            { source := ⟨producer, creation.descriptor.sourceId⟩
              kind := creation.descriptor.kind
              maximumBody := maximum.toNat
              serial := state.created } fresh, ?_⟩
          refine Tame.trans ?_ (quiet_advanceProjection _).tame
          split
          · exact tame_of_eq rfl rfl rfl rfl rfl
          · exact .refl _

section

variable (state : State)

theorem acts_performCreate
    (creation : SourceCreation)
    (token now : Nat) :
    Acts protocol (.serving session.producer) state
      (performCreate protocol session state creation token now).1 := by
  have created := acts_createSource protocol state session.producer creation
    token now
  unfold performCreate
  dsimp only
  split
  · exact created
  · split
    · exact created
    · split
      · exact created.behind (quiet_write _ _ _).tame
      · exact created

theorem acts_performCreation
    (parsed : Except String SourceCreation)
    (supported : Except String Unit)
    (circumstance : Circumstance) :
    Acts protocol (.serving session.producer) state
      (performCreation protocol session state parsed supported
        circumstance).1 := by
  unfold performCreation
  split
  · exact (Tame.refl state).acts protocol _
  · exact (Tame.refl state).acts protocol _
  · exact acts_performCreate protocol session state _ _ _

theorem acts_beginTxn
    (parsed : Except String Envelope) :
    Acts protocol (.serving session.producer) state
      (beginTxn session state parsed).1 := by
  unfold beginTxn
  split
  · exact (Tame.refl state).acts protocol _
  · split
    · exact (Tame.refl state).acts protocol _
    · rename_i transaction _
      have begun : Acts protocol (.serving session.producer) state _ :=
        (Act.begin state ⟨session.producer, transaction⟩).acts
      dsimp only
      split
      · exact begun
      · exact begun.behind (quiet_respond _ _ _).tame

variable (record : ControlRecord)

theorem acts_bufferNode
    (mutation : SceneNode → Mutation)
    (owns : ∀ node, (mutation node).owner = node.producer)
    (parsed : Except String (Envelope × NodeConfig)) :
    Acts protocol (.serving session.producer) state
      (bufferNode session state record mutation parsed).1 := by
  unfold bufferNode
  split
  · exact (Tame.refl state).acts protocol _
  · split
    · exact (Tame.refl state).acts protocol _
    · split
      · exact (Tame.refl state).acts protocol _
      · rename_i transaction _
        split
        · exact (Tame.refl state).acts protocol _
        · rename_i runtime found
          dsimp only
          split
          · exact (Tame.refl state).acts protocol _
          · split
            · refine Acts.behind (Act.acts (.buffer state
                ⟨session.producer, transaction⟩ _ ?_ ?_))
                (quiet_respond _ _ _).tame
              · exact owns _
              · exact fun _ _ => OrderedMap.mem_of_find?_eq_some found
            · exact (Tame.refl state).acts protocol _

variable (parsed : Except String (Envelope × Nat))

theorem acts_deleteNode :
    Acts protocol (.serving session.producer) state
      (deleteNode session state record parsed).1 := by
  unfold deleteNode
  split
  · exact (Tame.refl state).acts protocol _
  · split
    · exact (Tame.refl state).acts protocol _
    · rename_i transaction _
      dsimp only
      split
      · refine Acts.behind (Act.acts (.buffer state
          ⟨session.producer, transaction⟩ _ ?_ ?_))
          (quiet_respond _ _ _).tame
        · rfl
        · exact fun node puts => nomatch puts
      · exact (Tame.refl state).acts protocol _

/-- A transaction that is refused is closed, and one that is applied puts its
nodes into the scene. -/
theorem acts_commitTxn
    (parsed : Except String Envelope) :
    Acts protocol (.serving session.producer) state
      (commitTxn protocol session state parsed).1 := by
  unfold commitTxn
  split
  · exact (Tame.refl state).acts protocol _
  · split
    · exact (Tame.refl state).acts protocol _
    · rename_i transaction _
      dsimp only
      split
      · exact (Tame.refl state).acts protocol _
      · rename_i mutations found
        refine Acts.behind ?_ (quiet_respondTo _ _ _).tame
        have closed : Acts protocol (.serving session.producer) state
            { state with
              transactions := state.transactions.erase
                ⟨session.producer, transaction⟩ } :=
          (tame_closeTransaction state _).acts protocol _
        unfold applyTransaction
        split
        · exact closed
        · rename_i nodes applied
          split
          · exact closed
          · split
            · exact closed
            · have committed : Acts protocol (.serving session.producer) state _ :=
                (Act.commit state ⟨session.producer, transaction⟩ mutations
                  nodes found applied).acts
              have told := committed.behind (quiet_advanceScene protocol _
                session.producer .producerCommit).tame
              dsimp only
              split
              · exact told
              · exact told.behind (quiet_advanceProjection _).tame

theorem acts_destroySource :
    Acts protocol (.serving session.producer) state
      (destroySource protocol session state parsed).1 := by
  unfold destroySource
  split
  · exact (Tame.refl state).acts protocol _
  · rename_i envelope object
    refine Acts.behind ?_ (quiet_respondTo _ _ _).tame
    unfold removeSource
    split
    · exact (Tame.refl state).acts protocol _
    · rename_i source found
      have removed : Acts protocol (.serving session.producer) state _ :=
        (Act.destroy state ⟨session.producer, object⟩ source).acts
      dsimp only
      split
      · have told := removed.behind (quiet_advanceScene protocol _
          session.producer .sourceLoss).tame
        split
        · exact told
        · exact told.behind (quiet_advanceProjection _).tame
      · exact removed.behind (quiet_advanceProjection _).tame

variable (circumstance : Circumstance)

/-- A record acts for the producer it comes from. -/
theorem acts_perform :
    Acts protocol (.serving session.producer) state
      (perform protocol session state record circumstance).1 := by
  by_cases mild : record.body.Mild
  · exact (mild_perform protocol session state record circumstance
      mild).quiet.tame.acts protocol _
  obtain ⟨objectId, request, body⟩ := record
  cases body with
  | waitSource parsed => exact (tame_waitSource ..).acts protocol _
  | createRaster parsed | createImage parsed | createVideo parsed
  | createAudio parsed => exact acts_performCreation ..
  | beginTxn parsed => exact acts_beginTxn ..
  | createNode parsed | updateNode parsed =>
      exact acts_bufferNode _ _ _ _ _ (fun _ => rfl) _
  | deleteNode parsed => exact acts_deleteNode ..
  | commitTxn parsed => exact acts_commitTxn ..
  | abortTxn parsed => exact (tame_abortTxn ..).acts protocol _
  | destroySource parsed => exact acts_destroySource ..
  | pause parsed | drain parsed => exact (tame_startPause ..).acts protocol _
  | flush parsed => exact (tame_startFlush ..).acts protocol _
  | _ => exact (mild trivial).elim

theorem acts_runTask
    (task : Task) :
    Acts protocol (.serving session.producer) state
      (runTask protocol session state circumstance task).1 := by
  unfold runTask
  cases task with
  | check features record =>
      cases features with
      | nil => exact acts_perform protocol session state record circumstance
      | cons feature rest =>
          simp only
          split
          · exact (Tame.refl state).acts protocol _
          · exact (quiet_respond _ _ _).tame.acts protocol _
  | announce key =>
      exact (quiet_announceSource protocol state key).tame.acts protocol _
  | setPlayback key envelope =>
      exact ((mild_setPlayback protocol _ _ _ _ _).quiet.trans
        (quiet_respondTo _ _ _)).tame.acts protocol _
  | flush key epoch envelope =>
      exact ((tame_flushSource protocol state key epoch
        envelope.causation).trans (quiet_respondTo _ _ _).tame).acts protocol _
  | awaitDeliveries key epoch envelope =>
      simp only
      split
      · exact (Tame.refl state).acts protocol _
      · exact (Tame.refl state).acts protocol _
  | applyEos key epoch envelope =>
      exact ((tame_applyInnerEos protocol state key epoch
        envelope.causation).trans (quiet_respondTo _ _ _).tame).acts protocol _
  | withdrawBarrier key =>
      have withdrawn : Tame state
          { state with
            pendingMediaBarriers := state.pendingMediaBarriers.erase key } :=
        tame_of_eq rfl rfl rfl rfl rfl
      exact withdrawn.acts protocol _

end

/-! ## Steps -/

/-- Who acts in a step. -/
def Presenter.actor
    (presenter : Presenter) :
    PresenterEvent → Actor
  | .run thread _ _ =>
      match presenter.phase? thread with
      | some (.busy producer _) => .serving producer
      | _ => .other
  | .leave thread =>
      match presenter.phase? thread with
      | some (.leaving producer) => .leaving producer
      | _ => .other
  | _ => .other

theorem acts_sessionStep
    {after : State}
    (stepped : sessionStep protocol presenter.shared event = some after) :
    Acts protocol (presenter.actor event) presenter.shared after := by
  unfold sessionStep at stepped
  split at stepped <;> cases stepped
  · refine Tame.acts protocol ?_ _
    exact tame_of_eq rfl rfl rfl rfl rfl
  · exact (Act.revoke _ _).acts
  · exact (tame_updateMetrics ..).acts protocol _
  · exact (tame_observeMarker ..).acts protocol _
  · exact (Act.scroll _ _ _).acts.behind
      ((quiet_advanceScenes protocol _ _ _).trans
        (quiet_advanceProjection _)).tame
  · exact (Act.clear _ _).acts.behind
      ((quiet_advanceScenes protocol _ _ _).trans
        (quiet_advanceProjection _)).tame
  · exact (tame_projectionSnapshot ..).acts protocol _
  · exact (tame_deactivateBridge _).acts protocol _
  · exact (tame_completeBridgeDelivery ..).acts protocol _
  · exact (quiet_foldl _ (fun state
        (request : SourceKey × Option Nat × KeyframeReason) =>
      quiet_requestKeyframe protocol state request.1 request.2.1
        request.2.2) _ _).tame.acts protocol _
  · exact (quiet_foldl _ (fun state key =>
      (mild_requestFullFrame protocol state key _).quiet) _ _).tame.acts protocol _
  · exact (mild_applyOuterPlayback protocol _ _ _).quiet.tame.acts protocol _
  · exact (quiet_notifyCapabilitiesChanged _).tame.acts protocol _
  · exact (tame_updateProducer _ _ _).acts protocol _

theorem acts_admitProducer
    (pane : PaneId)
    (tag token : Nat)
    (features : List Feature)
    (spawns : Bool) :
    Acts protocol .other state
      (admitProducer protocol state pane tag token features spawns).1 := by
  unfold admitProducer
  split
  · exact (Tame.refl state).acts protocol _
  · split
    · exact (Tame.refl state).acts protocol _
    · split
      · exact (Tame.refl state).acts protocol _
      · rename_i producerId counted
        obtain ⟨-, rfl⟩ := checkedAdd_eq_some_iff.mp counted
        dsimp only
        split
        · refine Tame.acts protocol ?_ _
          exact tame_of_eq rfl rfl rfl rfl rfl
        · exact (Act.enter state _).acts

/-- What a thread other than one that ingests makes of the shared state acts at
most once. -/
theorem acts_shift
    {thread : Nat}
    {phase : Phase}
    (own : event.thread? = some thread)
    (there : presenter.phase? thread = some phase)
    (shift : Shift protocol presenter event phase state)
    (apart : ∀ thread now writable, event ≠ .ingest thread now writable) :
    Acts protocol (presenter.actor event) presenter.shared state := by
  cases shift with
  | idle => exact (Tame.refl _).acts protocol _
  | marks =>
      exact (quiet_markConnectionPane presenter.shared ..).tame.acts protocol _
  | admits => exact acts_admitProducer protocol presenter.shared ..
  | runs _ circumstance writable producer task =>
      cases own
      simp only [Presenter.actor, there]
      exact acts_runTask protocol ⟨producer, rootContext producer, writable⟩
        presenter.shared circumstance task
  | leaves _ producer =>
      cases own
      simp only [Presenter.actor, there]
      exact (Act.leave presenter.shared producer).acts
  | takes => exact (tame_takeTicket _ _).acts protocol _
  | attaches => exact (tame_attachChannel protocol _ _ _).acts protocol _
  | ingests => exact absurd rfl (apart _ _ _)
  | drops => exact (tame_dropQueued _ _ _).acts protocol _
  | recovers =>
      exact (quiet_requestKeyframe protocol _ _ _ _).tame.acts protocol _
  | closes => exact (mild_closeChannel protocol _ _).quiet.tame.acts protocol _

/-- A step other than ingest acts at most once. -/
theorem acts_presenterStep
    (stepped : presenterStep protocol presenter event = some after)
    (apart : ∀ thread now writable, event ≠ .ingest thread now writable) :
    Acts protocol (presenter.actor event) presenter.shared after.shared := by
  cases advance_of_step protocol stepped with
  | calls _ state stepsTo same =>
      rw [same]
      exact acts_sessionStep protocol stepsTo
  | turns _ _ _ _ own there shift =>
      exact acts_shift protocol _ own there shift apart
  | starts _ _ _ _ accepted =>
      exact (quiet_acceptConnection accepted).tame.acts protocol _
  | stops _ _ _ forgotten =>
      rw [forgotten]
      refine Tame.acts protocol ?_ _
      exact tame_of_eq rfl rfl rfl rfl rfl
  | stays _ same =>
      rw [same]
      exact (Tame.refl _).acts protocol _
  | applies _ _ _ applied =>
      rw [applied]
      exact (tame_applyInnerEos protocol presenter.shared _ _ _).acts protocol _
  | answers _ _ _ _ answered =>
      rw [answered]
      exact (quiet_answer _ _ _ _).tame.acts protocol _
  | expires producer request state removed settled =>
      have tame := (quiet_eraseWait presenter.shared producer request).tame
      refine Tame.acts protocol ?_ _
      subst removed
      rcases settled with settled | ⟨reply, settled⟩
      · rw [settled]
        exact tame
      · rw [settled]
        exact tame.trans (quiet_write _ _ _).tame

/-- Ingest leaves the scene as it is. -/
theorem still_ingest
    {thread now : Nat}
    {writable : Bool}
    (stepped : presenterStep protocol presenter
      (.ingest thread now writable) = some after) :
    Still presenter.shared after.shared := by
  simp only [presenterStep, sessionStep, controlStep, channelStep,
    serviceStep, Option.map_none, Option.none_or, Option.or_none] at stepped
  split at stepped <;> cases stepped
  rename_i ticket record _
  have ingested := enters_ingestRecord protocol presenter.shared
    ticket.source record now
  have settled := quiet_settleIngest
    (presenter.withShared
      (ingestRecord protocol presenter.shared ticket.source record now).1)
    thread ticket writable
    (ingestRecord protocol presenter.shared ticket.source record now).2
  exact ingested.still.trans settled.tame.toStill

/-! ## Threads -/

/-- A thread that leaves cleans its producer up and is finished. -/
theorem leaves_presenterStep
    {thread : Nat}
    (stepped : presenterStep protocol presenter (.leave thread) =
      some after) :
    ∃ producer, presenter.phase? thread = some (.leaving producer) ∧
      after.phase? thread = some .finished := by
  simp only [presenterStep, sessionStep, controlStep, channelStep,
    serviceStep, Option.map_none, Option.none_or, Option.or_none] at stepped
  split at stepped <;> cases stepped
  rename_i producer leaving
  exact ⟨producer, leaving, Presenter.phase?_move_self
    (by rw [Presenter.phase?_withShared, leaving]) .finished⟩

end Media
end Vvmux
