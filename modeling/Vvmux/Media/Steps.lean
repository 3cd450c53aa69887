import Vvmux.Media.Advances
import Vvmux.Media.Effects

/-!
# The changes of a step

What control records do to the shared state, and from that what a step of the
presenter does: at most its deed, and elementary changes behind it.
-/

namespace Vvmux
namespace Media

open Library

variable (protocol : Protocol)

/-! ## Answers -/

variable (session : Session) {state : State} {producerId : ProducerId}
  {nodes : Nodes} {presenter after : Presenter} {event : PresenterEvent}

/-- Only what is written and the barriers that are waited for differ. -/
def Answered (before after : State) : Prop :=
  after =
    { before with
      outbox := after.outbox
      pendingMediaBarriers := after.pendingMediaBarriers }

theorem Answered.refl (state : State) : Answered state state :=
  rfl

theorem Answered.mild
    {before after : State}
    (answered : Answered before after) : Mild before after := by
  rw [answered]
  exact ⟨{ Quiet.refl _ with }, drifts_of_eq rfl⟩

theorem Answered.quiet
    {before after : State}
    (answered : Answered before after) : Quiet before after :=
  answered.mild.quiet

theorem answered_respond
    (session : Session)
    (state : State)
    (reply : Reply) : Answered state (respond session state reply).1 := by
  unfold respond
  split
  · rfl
  · exact Answered.refl state

theorem answered_respondTo
    (session : Session)
    (result : State × Except String Unit)
    (reply : Reply) : Answered result.1 (respondTo session result reply).1 := by
  unfold respondTo
  split
  · exact Answered.refl _
  · exact answered_respond session _ reply

theorem answered_respondEncoded
    (session : Session)
    (state : State)
    (reply : Reply) :
    Answered state (respondEncoded protocol session state reply).1 := by
  unfold respondEncoded
  split
  · exact Answered.refl state
  · exact answered_respond session state reply

theorem quiet_respond
    (state : State)
    (reply : Reply) : Quiet state (respond session state reply).1 :=
  (answered_respond session state reply).quiet

theorem quiet_respondTo
    (result : State × Except String Unit)
    (reply : Reply) : Quiet result.1 (respondTo session result reply).1 :=
  (answered_respondTo session result reply).quiet

theorem quiet_respondEncoded
    (state : State)
    (reply : Reply) :
    Quiet state (respondEncoded protocol session state reply).1 :=
  (answered_respondEncoded protocol session state reply).quiet

/-! ## Queries and probes -/

section Queries

variable (session : Session) (state : State) (record : ControlRecord)

theorem answered_querySource
    (parsed : Except String (Envelope × Nat)) :
    Answered state (querySource protocol session state record parsed).1 := by
  unfold querySource
  split
  · exact Answered.refl state
  · split
    · exact Answered.refl state
    · dsimp only
      split
      · exact answered_respond session state _
      · exact answered_respondEncoded protocol session state _

theorem answered_queryScene
    (parsed : Except String (Envelope × SceneQuery)) :
    Answered state (queryScene protocol session state record parsed).1 := by
  unfold queryScene
  split
  · exact Answered.refl state
  · split
    · exact Answered.refl state
    · split
      · exact Answered.refl state
      · dsimp only
        split
        · exact answered_respondEncoded protocol session state _
        · split
          · exact Answered.refl state
          · exact answered_respondEncoded protocol session state _

theorem answered_queryAnchor
    (parsed : Except String (Envelope × Nat)) :
    Answered state (queryAnchor protocol session state record parsed).1 := by
  unfold queryAnchor
  split
  · exact Answered.refl state
  · split
    · exact Answered.refl state
    · split
      · exact Answered.refl state
      · exact answered_respondEncoded protocol session state _

theorem answered_queryLimits
    (parsed : Except String Envelope) :
    Answered state (queryLimits protocol session state record parsed).1 := by
  unfold queryLimits
  split
  · exact Answered.refl state
  · split
    · exact Answered.refl state
    · exact answered_respondEncoded protocol session state _

theorem answered_probeVideo
    (parsed : Except String (Envelope × VideoConfig)) :
    Answered state (probeVideo protocol session state record parsed).1 := by
  unfold probeVideo
  split
  · exact Answered.refl state
  · split
    · exact Answered.refl state
    · exact answered_respond session state _

theorem answered_probeAudio
    (parsed : Except String (Envelope × AudioConfig)) :
    Answered state (probeAudio protocol session state record parsed).1 := by
  unfold probeAudio
  split
  · exact Answered.refl state
  · split
    · exact Answered.refl state
    · exact answered_respond session state _

theorem answered_performPing
    (parsed : Except String Envelope) :
    Answered state (performPing session state record parsed).1 := by
  unfold performPing
  split
  · exact Answered.refl state
  · split
    · exact Answered.refl state
    · exact answered_respond session state _

theorem answered_performGoodbye
    (parsed : Except String Envelope) :
    Answered state (performGoodbye session state parsed).1 := by
  unfold performGoodbye
  split
  · exact Answered.refl state
  · split
    · rfl
    · exact Answered.refl state

theorem answered_startEos
    (parsed : Except String (Envelope × EosRequest))
    (spawns : Bool) :
    Answered state (startEos session state record parsed spawns).1 := by
  unfold startEos
  split
  · exact Answered.refl state
  · dsimp only
    split
    · exact Answered.refl state
    · split
      · exact Answered.refl state
      · split
        · exact answered_respond session state _
        · split
          · exact answered_respond session state _
          · split
            · exact answered_respond session state _
            · split
              · exact answered_respond session state _
              · split <;> rfl

/-- A record that is answered at most. -/
def ControlBody.Asks : ControlBody → Prop
  | .querySource _ | .queryScene _ | .queryAnchor _ | .queryLimits _ => True
  | .probeVideo _ | .probeAudio _ => True
  | .eos _ | .ping _ | .goodbye _ | .unknown _ => True
  | _ => False

theorem answered_perform
    (circumstance : Circumstance)
    (asks : record.body.Asks) :
    Answered state (perform protocol session state record circumstance).1 := by
  unfold perform
  cases body : record.body with
  | querySource parsed => exact answered_querySource ..
  | queryScene parsed => exact answered_queryScene ..
  | queryAnchor parsed => exact answered_queryAnchor ..
  | queryLimits parsed => exact answered_queryLimits ..
  | probeVideo parsed => exact answered_probeVideo ..
  | probeAudio parsed => exact answered_probeAudio ..
  | eos parsed => exact answered_startEos ..
  | ping parsed => exact answered_performPing ..
  | goodbye parsed => exact answered_performGoodbye ..
  | unknown isOptional =>
      dsimp only
      split
      · exact Answered.refl state
      · exact Answered.refl state
  | _ =>
      rw [body] at asks
      exact asks.elim

end Queries

theorem mild_setObservation
    (state : State)
    (record : ControlRecord)
    (parsed : Except String (Envelope × List Observation)) :
    Mild state (setObservation session state record parsed).1 := by
  unfold setObservation
  split
  · exact .refl _
  · split
    · exact .refl _
    · split
      · exact .refl _
      · split
        · exact .refl _
        · refine Mild.trans ?_ (answered_respond _ _ _).mild
          refine ⟨?_, drifts_of_eq rfl⟩
          apply quiet_updateProducer
          exact fun producer => ⟨rfl, rfl, rfl, fun _ _ found => found⟩

/-! ## Waits -/

/-- Waits that go are quiet. -/
theorem quiet_eraseWait
    (state : State)
    (producerId : ProducerId)
    (request : Nat) :
    Quiet state
      (state.updateProducer producerId fun runtime =>
        { runtime with waits := runtime.waits.erase request }) := by
  apply quiet_updateProducer
  intro producer
  refine ⟨rfl, rfl, rfl, ?_⟩
  intro query wait found
  rw [OrderedMap.find?_erase] at found
  split at found
  · cases found
  · exact found

theorem changes_registerWait
    (state : State)
    (request : Nat)
    (wait : PendingSourceWait) :
    Changes state (registerWait session state request wait).1 := by
  unfold registerWait
  split
  · exact .refl
  · rename_i runtime found
    split
    · exact .refl
    · rename_i few
      have registered : Changes state _ := .single
        (.registerWait state session.producer runtime request wait found
          (Nat.lt_of_not_le few))
      simp only
      split
      · exact registered
      · exact registered

theorem changes_waitSource
    (state : State)
    (record : ControlRecord)
    (parsed : Except String (Envelope × WaitRequest)) :
    Changes state (waitSource protocol session state record parsed).1 := by
  unfold waitSource
  split
  · exact .refl
  · simp only
    split
    · exact .refl
    · split
      · exact .refl
      · split
        · exact (quiet_respond _ _ _).changes
        · split
          · exact (quiet_respond _ _ _).changes
          · split
            · exact (quiet_respondEncoded _ _ _ _).changes
            · exact changes_registerWait _ _ _ _

theorem mild_cancelWait
    (state : State)
    (record : ControlRecord)
    (parsed : Except String (Envelope × Nat)) :
    Mild state (cancelWait session state record parsed).1 := by
  unfold cancelWait
  split
  · exact .refl _
  · split
    · exact .refl _
    · rename_i envelope request _
      have removed : Mild state _ :=
        ⟨quiet_eraseWait state session.producer request, drifts_of_eq rfl⟩
      simp only
      split
      · exact removed.trans (answered_respond _ _ _).mild
      · split
        · exact (removed.trans (notified_write _ _ _).mild).trans
            (answered_respond _ _ _).mild
        · exact removed

/-! ## Sources -/

section

variable (state : State)

theorem does_performCreate
    (creation : SourceCreation)
    (token now : Nat) :
    Does protocol (some (.createSource session.producer creation token now))
      state (performCreate protocol session state creation token now).1 := by
  have created := does_createSource protocol state session.producer creation
    token now
  unfold performCreate
  simp only
  split
  · exact created
  · split
    · exact created
    · split
      · exact created.behind protocol (quiet_write _ _ _).changes
      · exact created

theorem does_performCreation
    (parsed : Except String SourceCreation)
    (supported : Except String Unit)
    (circumstance : Circumstance) :
    Does protocol
      (parsed.toOption.map fun creation =>
        .createSource session.producer creation circumstance.token
          circumstance.now)
      state
      (performCreation protocol session state parsed supported
        circumstance).1 := by
  unfold performCreation
  split
  · exact .inl .refl
  · exact .inl .refl
  · exact does_performCreate protocol session state _ _ _

theorem mild_setSourcePolicy
    (parsed : Except String (Envelope × Nat × Nat)) :
    Mild state (setSourcePolicy protocol session state parsed).1 := by
  rcases parsed with text | ⟨envelope, object, requested⟩
  · exact .refl _
  · simp only [setSourcePolicy]
    split
    · exact (answered_respond _ _ _).mild
    · split
      · exact (answered_respond _ _ _).mild
      · exact (answered_respond _ _ _).mild
      · rename_i tightened _
        have tightens : Mild state
            (state.updateSource ⟨session.producer, object⟩ fun source =>
              { source with capturePolicy := tightened }) := by
          apply mild_updateSource
          · exact fun source => { Source.Quiet.refl source with }
          · exact fun _ => Source.drifts_of_eq rfl rfl rfl rfl rfl rfl rfl id
        have told := tightens.trans (mild_advanceSource protocol _
          ⟨session.producer, object⟩ [.capturePolicy])
        split
        · exact told
        · exact (told.trans (mild_advanceProjection _)).trans
            (answered_respond _ _ _).mild

theorem mild_updateSourceDescriptor
    (parsed : Except String (Envelope × Nat × SemanticDescriptor)) :
    Mild state (updateSourceDescriptor protocol session state parsed).1 := by
  rcases parsed with text | ⟨envelope, object, descriptor⟩
  · exact .refl _
  · simp only [updateSourceDescriptor]
    split
    · exact (answered_respond _ _ _).mild
    · split
      · exact (answered_respond _ _ _).mild
      · have describes : Mild state
            (state.updateSource ⟨session.producer, object⟩ fun source =>
              { source with semanticDescriptor := some descriptor }) := by
          apply mild_updateSource
          · exact fun source => { Source.Quiet.refl source with }
          · exact fun _ => Source.drifts_of_eq rfl rfl rfl rfl rfl rfl rfl id
        have told := describes.trans (mild_advanceSource protocol _
          ⟨session.producer, object⟩ [.descriptor])
        split
        · exact told
        · exact (told.trans (mild_advanceProjection _)).trans
            (answered_respond _ _ _).mild

/-- The source a `DESTROY_SOURCE` names. -/
theorem does_destroySource
    (envelope : Envelope)
    (object : Nat) :
    Does protocol (some (.destroySource ⟨session.producer, object⟩)) state
      (destroySource protocol session state (.ok (envelope, object))).1 :=
  (does_removeSource protocol state ⟨session.producer, object⟩).behind protocol
    (quiet_respondTo _ _ _).changes

end

/-! ## Transactions -/

theorem does_beginTxn
    (state : State)
    (envelope : Envelope) :
    Does protocol
      (envelope.transaction.map fun transaction =>
        .beginTransaction ⟨session.producer, transaction⟩)
      state (beginTxn session state (.ok envelope)).1 := by
  simp only [beginTxn]
  cases envelope.transaction with
  | none => exact .inl .refl
  | some transaction =>
      have begun := Performs.does protocol
        (.beginTransaction state ⟨session.producer, transaction⟩) .refl
      simp only
      split
      · exact begun
      · exact begun.behind protocol (quiet_respond _ _ _).changes

theorem changes_bufferNode
    (state : State)
    (record : ControlRecord)
    (mutation : SceneNode → Mutation)
    (puts : ∀ node, (mutation node).node? = some node)
    (parsed : Except String (Envelope × NodeConfig)) :
    Changes state (bufferNode session state record mutation parsed).1 := by
  unfold bufferNode
  split
  · exact .refl
  · split
    · exact .refl
    · split
      · exact .refl
      · split
        · exact .refl
        · rename_i runtime found
          simp only
          split
          · exact .refl
          · split
            · refine .trans (.single (.bufferMutation state _ _ ?_))
                (quiet_respond _ _ _).changes
              intro node holds
              rw [puts] at holds
              cases holds
              exact ⟨rfl, runtime, found, rfl⟩
            · exact .refl

theorem changes_deleteNode
    (state : State)
    (record : ControlRecord)
    (parsed : Except String (Envelope × Nat)) :
    Changes state (deleteNode session state record parsed).1 := by
  unfold deleteNode
  split
  · exact .refl
  · split
    · exact .refl
    · simp only
      split
      · refine .trans (.single (.bufferMutation state _ _ ?_))
          (quiet_respond _ _ _).changes
        exact fun node holds => nomatch holds
      · exact .refl

variable {node : SceneNode}

/-- A node that passes its check shows a source of its producer. -/
theorem validateNode_ok
    {passed : Unit}
    (valid : validateNode protocol state producerId node = .ok passed) :
    node.producer = producerId ∧ node.source ∈ state.sources := by
  unfold validateNode at valid
  split at valid
  · cases valid
  · rename_i inScope
    simp only [not_or, Decidable.not_not] at inScope
    obtain ⟨owned, present⟩ := inScope
    refine ⟨owned, ?_⟩
    unfold SceneNode.source
    rw [owned]
    exact present

variable {key : ObjectKey}

/-- What is put under a node's key is that node, which shows a source. -/
theorem inserted_commits
    {passed : Unit}
    (valid : validateNode protocol state producerId node = .ok passed)
    {stored : SceneNode}
    (found : (nodes.insert ⟨producerId, node.config.nodeId⟩ node).find? key =
      some stored) :
    nodes.find? key = some stored ∨
      (key = ⟨producerId, stored.config.nodeId⟩ ∧
        stored.producer = producerId ∧ stored.source ∈ state.sources ∧
        stored = node) := by
  rw [OrderedMap.find?_insert] at found
  split at found
  · rename_i here
    cases found
    obtain ⟨owned, present⟩ := validateNode_ok protocol valid
    exact .inr ⟨here, owned, present, rfl⟩
  · exact .inl found

theorem applyMutation_commits
    {nodes after : Nodes}
    {mutation : Mutation}
    (applied : applyMutation protocol state producerId nodes mutation =
      .ok after)
    {key : ObjectKey}
    {node : SceneNode}
    (found : after.find? key = some node) :
    nodes.find? key = some node ∨
      (key = ⟨producerId, node.config.nodeId⟩ ∧
        node.producer = producerId ∧ node.source ∈ state.sources ∧
        mutation.node? = some node) := by
  unfold applyMutation at applied
  split at applied
  · rename_i created
    split at applied
    · cases applied
    · rename_i valid
      split at applied
      · cases applied
      · cases applied
        rcases inserted_commits protocol valid found with
          kept | ⟨isKey, owned, present, rfl⟩
        · exact .inl kept
        · exact .inr ⟨isKey, owned, present, rfl⟩
  · rename_i updated
    split at applied
    · cases applied
    · rename_i valid
      split at applied
      · cases applied
        rcases inserted_commits protocol valid found with
          kept | ⟨isKey, owned, present, rfl⟩
        · exact .inl kept
        · exact .inr ⟨isKey, owned, present, rfl⟩
      · cases applied
  · split at applied
    · cases applied
      rw [OrderedMap.find?_erase] at found
      split at found
      · cases found
      · exact .inl found
    · cases applied

/-- By induction over the mutations. -/
theorem applyMutations_commits
    (mutations : List Mutation)
    {nodes after : Nodes}
    (applied : applyMutations protocol state producerId nodes mutations =
      .ok after)
    {key : ObjectKey}
    {node : SceneNode}
    (found : after.find? key = some node) :
    nodes.find? key = some node ∨
      (key = ⟨producerId, node.config.nodeId⟩ ∧
        node.producer = producerId ∧ node.source ∈ state.sources ∧
        ∃ mutation ∈ mutations, mutation.node? = some node) := by
  induction mutations generalizing nodes with
  | nil =>
      cases applied
      exact .inl found
  | cons mutation rest ih =>
      unfold applyMutations at applied
      split at applied
      · cases applied
      · rename_i changed first
        rcases ih applied with
          kept | ⟨isKey, owned, present, other, listed, puts⟩
        · rcases applyMutation_commits protocol first kept with
            before | ⟨isKey, owned, present, puts⟩
          · exact .inl before
          · exact .inr ⟨isKey, owned, present, mutation,
              List.mem_cons_self .., puts⟩
        · exact .inr ⟨isKey, owned, present, other,
            List.mem_cons_of_mem _ listed, puts⟩

theorem changes_applyTransaction
    {mutations : List Mutation}
    (opened : state.transactions.find? key = some mutations) :
    Changes state
      (applyTransaction protocol
        { state with transactions := state.transactions.erase key }
        key.producer mutations).1 := by
  have closed : Changes state
      { state with transactions := state.transactions.erase key } :=
    .single (.closeTransaction state key)
  unfold applyTransaction
  split
  · exact closed
  · rename_i nodes applied
    split
    · exact closed
    · split
      · exact closed
      · rename_i few
        have commits : Commits state key.producer mutations nodes :=
          fun _ _ found => applyMutations_commits protocol mutations applied
            found
        have committed : Changes state _ := .single
          (.commit state key mutations nodes opened commits
            (Nat.le_of_not_lt few))
        have told := committed.trans (quiet_advanceScene protocol
          { state with
            transactions := state.transactions.erase key
            nodes := nodes } key.producer .producerCommit).changes
        simp only
        split
        · exact told
        · exact told.trans (quiet_advanceProjection _).changes

theorem changes_commitTxn
    (state : State)
    (parsed : Except String Envelope) :
    Changes state (commitTxn protocol session state parsed).1 := by
  unfold commitTxn
  split
  · exact .refl
  · split
    · exact .refl
    · rename_i transaction _
      simp only
      split
      · exact .refl
      · rename_i mutations found
        exact (changes_applyTransaction protocol found).trans
          (quiet_respondTo _ _ _).changes

theorem changes_abortTxn
    (state : State)
    (parsed : Except String Envelope) :
    Changes state (abortTxn session state parsed).1 := by
  unfold abortTxn
  split
  · exact .refl
  · split
    · exact .refl
    · exact .trans (.single (.closeTransaction state _))
        (quiet_respond _ _ _).changes

/-! ## Dispatch -/

section

variable (state : State)

theorem changes_startPause
    (parsed : Except String (Envelope × Nat)) :
    Changes state (startPause session state parsed).1 := by
  unfold startPause
  split
  · exact .refl
  · exact changes_cancelSourceDeliveries _ _

theorem mild_performPlay
    (parsed : Except String (Envelope × PlayRequest))
    (now : Nat) :
    Mild state (performPlay protocol session state parsed now).1 := by
  unfold performPlay
  split
  · exact .refl _
  · exact (mild_setPlayback protocol _ _ _ _ _).trans
      (answered_respondTo _ _ _).mild

theorem changes_startFlush
    (parsed : Except String (Envelope × Nat × Nat)) :
    Changes state (startFlush session state parsed).1 := by
  unfold startFlush
  split
  · exact .refl
  · exact changes_cancelSourceDeliveries _ _

/-- A record that rewrites a source or some waits, if it is not answered
only. -/
def ControlBody.Mild : ControlBody → Prop
  | .setObservation _ | .cancelWait _ | .play _ => True
  | .setSourcePolicy _ | .updateSourceDescriptor _ => True
  | body => body.Asks

theorem mild_perform
    (record : ControlRecord)
    (circumstance : Circumstance)
    (mild : record.body.Mild) :
    Media.Mild state
      (perform protocol session state record circumstance).1 := by
  have asked (asks : record.body.Asks) :=
    (answered_perform protocol session state record circumstance asks).mild
  unfold perform at asked ⊢
  cases body : record.body with
  | setObservation parsed => exact mild_setObservation ..
  | cancelWait parsed => exact mild_cancelWait ..
  | play parsed => exact mild_performPlay ..
  | setSourcePolicy parsed => exact mild_setSourcePolicy ..
  | updateSourceDescriptor parsed => exact mild_updateSourceDescriptor ..
  | _ =>
      rw [body] at mild asked
      exact asked mild

/-- A record does at most its deed. -/
theorem does_perform
    (record : ControlRecord)
    (circumstance : Circumstance) :
    Does protocol (record.deed? session.producer circumstance) state
      (perform protocol session state record circumstance).1 := by
  by_cases mild : record.body.Mild
  · exact .inl (mild_perform protocol session state record circumstance
      mild).quiet.changes
  obtain ⟨objectId, request, body⟩ := record
  cases body with
  | waitSource parsed => exact .inl (changes_waitSource ..)
  | createRaster parsed | createImage parsed | createVideo parsed
  | createAudio parsed =>
      cases parsed with
      | error text => exact .inl .refl
      | ok request => exact does_performCreation protocol session state _ _ _
  | beginTxn parsed =>
      cases parsed with
      | error text => exact .inl .refl
      | ok envelope => exact does_beginTxn protocol session state envelope
  | createNode parsed | updateNode parsed =>
      exact .inl (changes_bufferNode _ _ _ _ (fun _ => rfl) _)
  | deleteNode parsed => exact .inl (changes_deleteNode ..)
  | commitTxn parsed => exact .inl (changes_commitTxn ..)
  | abortTxn parsed => exact .inl (changes_abortTxn ..)
  | destroySource parsed =>
      cases parsed with
      | error text => exact .inl .refl
      | ok request => exact does_destroySource protocol session state _ _
  | pause parsed | drain parsed => exact .inl (changes_startPause ..)
  | flush parsed => exact .inl (changes_startFlush ..)
  | _ => exact (mild trivial).elim

/-- A task does at most its deed. -/
theorem does_runTask
    (circumstance : Circumstance)
    (task : Task) :
    Does protocol (task.deed? session.producer circumstance) state
      (runTask protocol session state circumstance task).1 := by
  unfold runTask
  cases task with
  | check features record =>
      cases features with
      | nil => exact does_perform protocol session state record circumstance
      | cons feature rest =>
          refine .inl ?_
          simp only
          split
          · exact .refl
          · exact (quiet_respond _ _ _).changes
  | announce key => exact .inl (quiet_announceSource protocol state key).changes
  | setPlayback key envelope =>
      exact .inl ((mild_setPlayback protocol _ _ _ _ _).quiet.trans
        (quiet_respondTo _ _ _)).changes
  | flush key epoch envelope =>
      exact (does_flushSource protocol state key epoch
        envelope.causation).behind protocol (quiet_respondTo _ _ _).changes
  | awaitDeliveries key epoch envelope =>
      refine .inl ?_
      simp only
      split
      · exact .refl
      · exact .refl
  | applyEos key epoch envelope =>
      exact (does_applyInnerEos protocol state key epoch
        envelope.causation).behind protocol (quiet_respondTo _ _ _).changes
  | withdrawBarrier key =>
      exact .inl (Quiet.changes { Quiet.refl _ with })

end

/-! ## Connections -/

theorem changes_admitProducer
    (state : State)
    (pane : PaneId)
    (tag token : Nat)
    (features : List Feature)
    (spawns : Bool) :
    Changes state
      (admitProducer protocol state pane tag token features spawns).1 := by
  unfold admitProducer
  split
  · exact .refl
  · rename_i display usable
    split
    · exact .refl
    · split
      · exact .refl
      · rename_i producerId counted
        obtain ⟨-, rfl⟩ := checkedAdd_eq_some_iff.mp counted
        simp only
        split
        · exact .single (.numberProducer state)
        · exact .single (.enterProducer state _ display
            (Option.eq_some_of_filter_eq_some usable) rfl rfl rfl)

theorem quiet_markConnectionPane
    (state : State)
    (connection : Nat)
    (pane : PaneId) :
    Quiet state (markConnectionPane state connection pane).1 := by
  unfold markConnectionPane
  split
  · exact .refl _
  · split
    · exact .refl _
    · exact { Quiet.refl _ with }

theorem quiet_acceptConnection
    {state after : State}
    {connection : Nat}
    (accepted : acceptConnection state = some (after, connection)) :
    Quiet state after := by
  unfold acceptConnection at accepted
  split at accepted
  · cases accepted
  · cases accepted
    exact { Quiet.refl _ with }

/-! ## Steps -/

/-- A call of the session does at most its deed. -/
theorem does_sessionStep
    {after : State}
    (stepped : sessionStep protocol presenter.shared event = some after) :
    Does protocol (presenter.deed? protocol event) presenter.shared after := by
  unfold sessionStep at stepped
  split at stepped <;> cases stepped
  · exact .inl (Quiet.changes { Quiet.refl _ with })
  · exact .inl (changes_revokePane protocol _ _)
  · exact does_updateMetrics protocol _ _ _ _ _ _
  · exact does_observeMarker protocol _ _ _ _ _
  · exact .inl (changes_scrollAnchors protocol _ _ _)
  · exact .inl (changes_clearAnchors protocol _ _)
  · exact .inl (changes_projectionSnapshot protocol _ _ _)
  · exact .inl (changes_deactivateBridge _)
  · exact .inl (changes_completeBridgeDelivery protocol _ _ _)
  · exact .inl (quiet_foldl _ (fun state
        (request : SourceKey × Option Nat × KeyframeReason) =>
      quiet_requestKeyframe protocol state request.1 request.2.1
        request.2.2) _ _).changes
  · exact .inl (quiet_foldl _ (fun state key =>
      (mild_requestFullFrame protocol state key _).quiet) _ _).changes
  · exact .inl (mild_applyOuterPlayback protocol _ _ _).quiet.changes
  · exact .inl (quiet_notifyCapabilitiesChanged _).changes
  · refine .inl (Quiet.changes ?_)
    apply quiet_updateProducer
    exact fun producer => ⟨rfl, rfl, rfl, fun _ _ found => found⟩

theorem quiet_settleIngest
    (presenter : Presenter)
    (thread : Nat)
    (ticket : Ticket)
    (writable : Bool)
    (result : Except String Ingested) :
    Quiet presenter.shared
      (presenter.settleIngest thread ticket writable result).shared := by
  unfold Presenter.settleIngest
  split
  · exact .refl _
  · split
    · exact quiet_rejectionReplies _ _ _ _ _
    · exact .refl _
  · exact .refl _
  · split
    · exact .refl _
    · split
      · exact .refl _
      · exact .refl _

/-- What a thread makes of the shared state is at most its deed. -/
theorem does_shift
    {thread : Nat}
    {phase : Phase}
    {state : State}
    (own : event.thread? = some thread)
    (there : presenter.phase? thread = some phase)
    (shift : Shift protocol presenter event phase state) :
    Does protocol (presenter.deed? protocol event) presenter.shared state := by
  cases shift with
  | idle => exact .inl .refl
  | marks => exact .inl (quiet_markConnectionPane presenter.shared ..).changes
  | admits => exact .inl (changes_admitProducer protocol presenter.shared ..)
  | runs _ circumstance writable producer task =>
      cases own
      simp only [Presenter.deed?, there]
      exact does_runTask protocol ⟨producer, rootContext producer, writable⟩
        presenter.shared circumstance task
  | leaves => exact .inl (changes_cleanupProducer protocol _ _ _)
  | takes _ token =>
      cases own
      simp only [Presenter.deed?, there]
      exact does_takeTicket protocol presenter.shared token
  | attaches _ token ticket =>
      cases own
      simp only [Presenter.deed?, there]
      exact does_attachChannel protocol presenter.shared token ticket
  | ingests _ now writable ticket record result ingested =>
      have entered := changes_ingestRecord protocol presenter.shared
        ticket.source record now
      rw [ingested] at entered
      exact .inl (entered.trans (quiet_settleIngest
        (presenter.withShared result.1) _ ticket writable
          result.2).changes)
  | drops => exact .inl (changes_dropQueued _ _ _)
  | recovers => exact .inl (quiet_requestKeyframe protocol _ _ _ _).changes
  | closes => exact .inl (mild_closeChannel protocol _ _).quiet.changes

/-- An answer of a barrier worker is quiet. -/
theorem quiet_answer
    (state : State)
    (key : ObjectKey)
    (producer : ProducerId)
    (reply : Reply) :
    Quiet state (State.write
      { state with
        pendingMediaBarriers := state.pendingMediaBarriers.erase key }
      producer reply) := by
  have withdrawn : Quiet state
      { state with
        pendingMediaBarriers := state.pendingMediaBarriers.erase key } :=
    { Quiet.refl _ with }
  exact withdrawn.trans (quiet_write _ _ _)

/-- A step does at most its deed, and elementary changes behind it. -/
theorem does_presenterStep
    (stepped : presenterStep protocol presenter event = some after) :
    Does protocol (presenter.deed? protocol event) presenter.shared
      after.shared := by
  cases advance_of_step protocol stepped with
  | calls _ state stepsTo same =>
      rw [same]
      exact does_sessionStep protocol stepsTo
  | turns _ _ _ _ own there shift => exact does_shift protocol own there shift
  | starts _ _ _ _ accepted =>
      exact .inl (quiet_acceptConnection accepted).changes
  | stops _ _ _ forgotten =>
      rw [forgotten]
      exact .inl (Quiet.changes { Quiet.refl _ with })
  | stays _ same =>
      rw [same]
      exact .inl .refl
  | applies worker barrier accepted applied =>
      rw [applied]
      simp only [Presenter.deed?, accepted]
      exact does_applyInnerEos protocol presenter.shared barrier.source
        barrier.epoch barrier.causation
  | answers _ _ _ _ answered =>
      rw [answered]
      exact .inl (quiet_answer _ _ _ _).changes
  | expires producer request state removed settled =>
      have quiet := quiet_eraseWait presenter.shared producer request
      refine .inl (Quiet.changes ?_)
      subst removed
      rcases settled with settled | ⟨reply, settled⟩
      · rw [settled]
        exact quiet
      · rw [settled]
        exact quiet.trans (quiet_write _ _ _)

/-- What a control thread's task leaves behind. -/
theorem shared_run
    {thread : Nat}
    {circumstance : Circumstance}
    {writable : Bool}
    {producer : ProducerId}
    {task : Task}
    (busy : presenter.phase? thread = some (.busy producer task))
    (stepped : presenterStep protocol presenter
      (.run thread circumstance writable) = some after) :
    after.shared =
      (runTask protocol ⟨producer, rootContext producer, writable⟩
        presenter.shared circumstance task).1 := by
  simp only [presenterStep, sessionStep, controlStep, channelStep, serviceStep,
    busy, Option.map_none, Option.none_or, Option.or_none,
    Option.some.injEq] at stepped
  rw [← stepped, Presenter.shared_proceed, Presenter.shared_withShared]

variable {guard : Presenter → PresenterEvent → Prop} {config : Config}

/-- The invariant rule for the shared state: what every elementary change and
every deed preserves holds in every state of every guarded run. -/
theorem reachable_shared
    {invariant : State → Prop}
    (initially : ∀ events, invariant (.start config events))
    (change : ∀ before after, invariant before → Change before after →
      invariant after)
    (deed : ∀ presenter event done after, invariant presenter.shared →
      guard presenter event → presenter.deed? protocol event = some done →
      Performs protocol presenter.shared done after → invariant after)
    {presenter : Presenter}
    (reachable : (presenterMachine protocol config).Reachable guard presenter) :
    invariant presenter.shared := by
  apply reachable.invariant
  · rintro start ⟨events, rfl⟩
    exact initially events
  · intro before event after holds guarded stepped
    rcases does_presenterStep protocol stepped with
      changes | ⟨done, middle, isDeed, performs, changes⟩
    · exact changes.preserve change holds
    · exact changes.preserve change
        (deed before event done middle holds guarded isDeed performs)

/-! ## Runs from events -/

/-- The presenter after a list of events that all pass a check. -/
def follow
    (allowed : Presenter → PresenterEvent → Bool) :
    Presenter → List PresenterEvent → Option Presenter
  | presenter, [] => some presenter
  | presenter, event :: rest =>
      if allowed presenter event then
        (presenterStep protocol presenter event).bind fun after =>
          follow allowed after rest
      else none

variable {allowed : Presenter → PresenterEvent → Bool}

/-- By induction over the events. -/
theorem reachable_follow
    (checks : ∀ presenter event, allowed presenter event = true →
      guard presenter event)
    (events : List PresenterEvent)
    {presenter after : Presenter}
    (reachable : (presenterMachine protocol config).Reachable guard presenter)
    (followed : follow protocol allowed presenter events = some after) :
    (presenterMachine protocol config).Reachable guard after := by
  induction events generalizing presenter with
  | nil =>
      cases followed
      exact reachable
  | cons event rest ih =>
      unfold follow at followed
      split at followed
      · rename_i passes
        obtain ⟨middle, stepped, further⟩ :=
          Option.bind_eq_some_iff.mp followed
        exact ih
          (.step reachable (checks presenter event passes) stepped) further
      · cases followed

/-- A presenter that was just started and followed a list of events. -/
def runEvents
    (allowed : Presenter → PresenterEvent → Bool)
    (events : List PresenterEvent) : Option Presenter :=
  follow protocol allowed (.start .standard false) events

theorem reachable_runEvents
    (checks : ∀ presenter event, allowed presenter event = true →
      guard presenter event)
    (events : List PresenterEvent)
    {presenter : Presenter}
    (followed : runEvents protocol allowed events = some presenter) :
    (presenterMachine protocol .standard).Reachable guard presenter :=
  reachable_follow protocol checks events (.initial ⟨false, rfl⟩) followed

/-- Thread 0 connects as producer 1 of pane 1. -/
def connecting :
    List PresenterEvent :=
  [.issueCapability 1 7,
    .updateMetrics 1 80 24 8 16,
    .accept 0 none,
    .hello 0
      { request := 1
        authenticates := true
        token := .ok 7
        offersVersion := true
        features := some [.mediaOrderBarrier] },
    .markControl 0,
    .admission 0 0 true,
    .welcome 0 true]

/-- Thread 0 receives a control record and performs it in some tasks. -/
def controlling
    (object : Nat)
    (body : ControlBody)
    (tasks : Nat) : List PresenterEvent :=
  .receiveControl 0 ⟨object, 1, body⟩ ::
    List.replicate tasks (.run 0 ⟨0, 9, true⟩ true)

/-- The envelope of a record outside a transaction. -/
def plainEnvelope :
    Envelope :=
  ⟨1, none, none⟩

/-- Producer 1 creates image 3 of a hundred bytes under ticket 9. -/
def creatingImage :
    List PresenterEvent :=
  controlling 3
    (.createImage (.ok
      ({ envelope := plainEnvelope
         config :=
           { sourceId := 3
             width := 5
             height := 5
             encodedLength := 100
             encoding := .png
             sha256 := none }
         capturePolicy := 0
         statesPolicy := false
         semanticDescriptor := none
         statesDescriptor := false },
        false))) 2

end Media
end Vvmux
