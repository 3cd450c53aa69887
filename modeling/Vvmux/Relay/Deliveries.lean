import Vvmux.Media.EndOfStream
import Vvmux.Relay.Session

/-!
# Pending deliveries and the client

A pending delivery is on its way to the session's queue, in the queue, or was
sent to the client that is attached.  It has to be released when that client
goes, and two paths do not do so.
-/

namespace Vvmux
namespace Relay

open Library Media

variable (protocol : Protocol)

namespace MediaRelay

/-- The deliveries that the presenter waits for. -/
def pending (relay : MediaRelay) : OrderedMap Nat PendingDelivery :=
  relay.presenter.shared.deliveries

/-- The event of a delivery is in the queue. -/
def Queued (relay : MediaRelay) (delivery : Nat) : Prop :=
  ∃ event ∈ relay.channel, event.deliveryId = delivery

/-- A thread that ingested a record is about to offer its event to the
queue. -/
def OnItsWay (relay : MediaRelay) (delivery : Nat) : Prop :=
  ∃ thread ticket event,
    relay.presenter.phase? thread = some (.sending ticket event) ∧
      event.deliveryId = delivery

/-- A delivery was sent to a client. -/
def SentTo (relay : MediaRelay) (client : Client) (delivery : Nat) : Prop :=
  (client.number, delivery) ∈ relay.sent

/-- A delivery is where it will be sent or acknowledged from. -/
def Held (relay : MediaRelay) (delivery : Nat) : Prop :=
  relay.Queued delivery ∨ relay.OnItsWay delivery ∨
    ∃ client, relay.vividClient = some client ∧ relay.SentTo client delivery

/-- A delivery was sent to a client that is not the one attached. -/
def Stale (relay : MediaRelay) (delivery : Nat) : Prop :=
  ∃ number, (number, delivery) ∈ relay.sent ∧
    ∀ client, relay.vividClient = some client → client.number ≠ number

end MediaRelay

/-- Every pending delivery is held, the client's acknowledgement of what it was
sent ends it, and without a client and with nothing left to send nothing waits
for a delivery. -/
structure DeliveriesHeld (relay : MediaRelay) : Prop where
  held : ∀ delivery, delivery ∈ relay.pending → relay.Held delivery
  acknowledged : ∀ client delivery delivered,
    relay.vividClient = some client → relay.SentTo client delivery →
      ∃ after, relayStep protocol relay
          (.acknowledge client.id delivery delivered) = some after ∧
        delivery ∉ after.pending
  drained : relay.vividClient = none → relay.channel = [] →
    (∀ delivery, ¬ relay.OnItsWay delivery) →
      (∀ delivery, delivery ∉ relay.pending) ∧
        relay.pending.total (fun _ pending => pending.creditBytes) = 0 ∧
        ∀ session circumstance key epoch envelope,
          runTask protocol session relay.presenter.shared circumstance
              (.awaitDeliveries key epoch envelope) =
            (relay.presenter.shared, .next (.applyEos key epoch envelope))

/-! ## The condition -/

namespace MediaRelay

/-- The client has not acknowledged everything it was sent. -/
def owes (relay : MediaRelay) (client : Client) : Bool :=
  relay.pending.keys.any fun delivery =>
    relay.sent.contains (client.number, delivery)

/-- Whether a delivery was sent to a client that is not the one attached. -/
def isStale (relay : MediaRelay) (delivery : Nat) : Bool :=
  relay.sent.any fun entry =>
    entry.2 == delivery &&
      relay.vividClient.all fun client => client.number != entry.1

/-- A snapshot of a view hides what earlier clients owe. -/
def hidesStale (relay : MediaRelay) (view : View) : Bool :=
  relay.pending.entries.all fun entry =>
    !relay.isStale entry.1 ||
      !((relay.presenter.shared.snapshotSources view.panes
        view.viewportOffset).map Prod.fst).contains entry.2.source

/-- The client that goes owes nothing: one whose connection ends, or one that
is replaced where the new client is not told so.  What a replaced client owes
is hidden by the first snapshot for the new one. -/
def settlesClients
    (relay : MediaRelay) :
    RelayEvent → Bool
  | .disconnected id =>
      relay.attached.all fun client => client.id != id || !relay.owes client
  | .attach _ replace _ writable =>
      writable || !replace ||
        relay.attached.all fun client => !relay.owes client
  | .synchronise none =>
      match relay.stage with
      | .syncing _ true _ =>
          relay.vividClient.isNone || relay.pending.keys.all fun delivery =>
            !relay.isStale delivery
      | _ => true
  | .project _ =>
      match relay.stage with
      | .projecting view true _ => relay.hidesStale view
      | _ => true
  | _ => true

end MediaRelay

/-! ## The invariant -/

/-- The event that the session has taken from the queue. -/
def Continuation.Holds
    (delivery : Nat) :
    Continuation → Prop
  | .rest => False
  | .deliver event => event.deliveryId = delivery

/-- What the session itself still has to do with a delivery. -/
def Stage.Holds
    (relay : MediaRelay)
    (delivery : Nat) :
    Stage → Prop
  | .idle => False
  | .syncing _ joining next =>
      next.Holds delivery ∨ relay.vividClient = none ∨
        (joining = true ∧ relay.Stale delivery)
  | .projecting _ joining next =>
      next.Holds delivery ∨ (joining = true ∧ relay.Stale delivery)
  | .forwarding event => event.deliveryId = delivery
  | .recovering _ _ => False
  | .detaching => True

/-- Between the steps of a run each delivery is held, or the session is about
to deal with it. -/
structure Custody (relay : MediaRelay) : Prop where
  held : ∀ delivery, delivery ∈ relay.pending →
    relay.Held delivery ∨ relay.stage.Holds relay delivery
  forced : ∀ force next, relay.stage = .syncing force true next → force = true
  numbered : ∀ client, relay.attached = some client →
    client.number < relay.attachments

/-! ## Calls of the presenter -/

variable {presenter : Presenter} {event : PresenterEvent} {state : State}
  {delivery thread : Nat} {writable : Bool} {relay after : MediaRelay}
  {next : Continuation}

/-- A call of the session steps only the shared state. -/
theorem presenterStep_call
    (called : sessionStep protocol presenter.shared event = some state) :
    presenterStep protocol presenter event =
      some (presenter.withShared state) := by
  unfold presenterStep
  rw [called]
  rfl

/-- A delivery that is completed is over. -/
theorem not_mem_completeBridgeDelivery
    (state : State)
    (delivery : Nat)
    (delivered : Bool) :
    delivery ∉
      (completeBridgeDelivery protocol state delivery delivered).1.deliveries := by
  unfold completeBridgeDelivery
  split
  · rename_i missing
    exact (OrderedMap.find?_eq_none_iff _ _).mp missing
  · dsimp only
    intro present
    have told := (tame_returnCredit _ _ _).deliveries delivery present
    have concluded := (quiet_advanceSource protocol _ _ _).tame.deliveries
      delivery told
    have dropped := (mild_concludeDelivery _ _ _).quiet.tame.deliveries delivery
      concluded
    exact ((OrderedMap.mem_erase _ _ _).mp dropped).2 rfl

/-- Without the bridge no delivery is pending. -/
theorem not_mem_deactivateBridge
    (state : State)
    (delivery : Nat) : delivery ∉ (deactivateBridge state).deliveries := by
  intro present
  have pending := (tame_deactivateBridge state).deliveries delivery present
  unfold deactivateBridge at present
  exact not_mem_takeDeliveries ((OrderedMap.mem_def _ _).mp pending) present

/-- A snapshot releases the deliveries of the sources that it hides. -/
theorem projected_of_mem_snapshot
    {panes : List PaneId}
    {viewportOffset : PaneId → Nat}
    (present : delivery ∈
      (projectionSnapshot protocol state panes viewportOffset).deliveries)
    {pending : PendingDelivery}
    (found : state.deliveries.find? delivery = some pending) :
    ((state.snapshotSources panes viewportOffset).map Prod.fst).contains
      pending.source = true := by
  unfold projectionSnapshot at present
  have there := (quiet_advanceSources protocol _ _ _).tame.deliveries delivery
    present
  by_contra hidden
  refine not_mem_takeDeliveries ?_ there
  rw [← OrderedMap.mem_def, ← OrderedMap.find?_isSome_iff,
    OrderedMap.find?_filter, found]
  simpa using hidden

/-! ## Steps of other threads -/

/-- A thread that offers its event to the queue succeeds if there is room;
otherwise the delivery is over. -/
theorem sent_or_dropped
    {presenter after : Presenter}
    {taken : Bool}
    (stepped : presenterStep protocol presenter (.send thread taken) =
      some after)
    {ticket : Ticket}
    {event : MediaEvent}
    (sending : presenter.phase? thread = some (.sending ticket event)) :
    taken = true ∨ event.deliveryId ∉ after.shared.deliveries := by
  simp only [presenterStep, sessionStep, controlStep, channelStep,
    serviceStep, sending, Option.map_none, Option.none_or,
    Option.or_none] at stepped
  split at stepped
  · rename_i isTaken
    exact .inl isTaken
  · right
    cases stepped
    intro present
    have dropped : event.deliveryId ∉
        (dropQueued presenter.shared ticket.source
          event.deliveryId).1.deliveries := by
      unfold dropQueued
      dsimp only
      split
      · exact not_mem_takeDelivery _ _
      · split
        · exact not_mem_takeDelivery _ _
        · exact not_mem_takeDelivery _ _
    exact dropped present

/-- A thread that is about to offer an event goes on doing so until it does. -/
theorem sending_presenterStep
    {presenter after : Presenter}
    (stepped : presenterStep protocol presenter event = some after)
    {ticket : Ticket}
    {offered : MediaEvent}
    (sending : presenter.phase? thread = some (.sending ticket offered)) :
    after.phase? thread = some (.sending ticket offered) ∨
      ∃ taken, event = .send thread taken := by
  cases threads_presenterStep protocol stepped with
  | still _ same =>
      rw [Presenter.phase?_congr same]
      exact .inl sending
  | turn _ own old new isOwn there moved turn =>
      rw [Presenter.phase?_congr moved, Presenter.phase?_move]
      by_cases here : thread = own
      · rw [here, there] at sending
        cases sending
        cases turn with
        | onward _ _ _ unsent unsends keeps => cases unsent
        | admitted _ tag spawns _ unsent counted registered => cases unsent
        | sent own taken ticket sent _ unsends idle =>
            cases isOwn
            exact .inr ⟨taken, by rw [here]⟩
      · rw [if_neg here]
        exact .inl sending
  | start own connection channel unused inserted =>
      rw [Presenter.phase?_insert inserted]
      have other : thread ≠ own := by
        rintro rfl
        unfold Presenter.phase? at sending
        rw [(OrderedMap.find?_eq_none_iff _ _).mpr unused] at sending
        cases sending
      rw [if_neg other]
      exact .inl sending
  | stop own finished erased =>
      rw [Presenter.phase?_erase erased]
      have other : thread ≠ own := by
        rintro rfl
        rw [finished] at sending
        cases sending
      rw [if_neg other]
      exact .inl sending

/-- A delivery that ingest enters is that of the event its thread is about to
offer. -/
theorem ingested_is_sending
    {presenter after : Presenter}
    {thread now : Nat}
    (stepped : presenterStep protocol presenter
      (.ingest thread now writable) = some after)
    {delivery : Nat}
    (present : delivery ∈ after.shared.deliveries) :
    delivery ∈ presenter.shared.deliveries ∨
      ∃ ticket event, after.phase? thread = some (.sending ticket event) ∧
        event.deliveryId = delivery := by
  simp only [presenterStep, sessionStep, controlStep, channelStep,
    serviceStep, Option.map_none, Option.none_or, Option.or_none] at stepped
  split at stepped <;> cases stepped
  rename_i ticket record validated
  have entered := enters_ingestRecord protocol presenter.shared
    ticket.source record now
  have settled := (quiet_settleIngest
    (presenter.withShared
      (ingestRecord protocol presenter.shared ticket.source record now).1)
    thread ticket writable
    (ingestRecord protocol presenter.shared ticket.source record
      now).2).tame.deliveries delivery present
  rcases entered.deliveries delivery settled with
    old | ⟨event, keyframe, accepted, isEvent⟩
  · exact .inl old
  · refine .inr ⟨ticket, event, ?_, isEvent⟩
    rw [Presenter.phase?_congr (Presenter.threads_settleIngest _ _ _ _ _),
      Presenter.phase?_move_self (by
        rw [Presenter.phase?_withShared, validated]), accepted]
    rfl

/-- What other threads do leaves a pending delivery where it is held, or holds
it. -/
theorem held_outside
    {after : Presenter}
    (stepped : presenterStep protocol relay.presenter event = some after)
    (present : delivery ∈ after.shared.deliveries) :
    (delivery ∈ relay.pending ∧ ¬ relay.Held delivery) ∨
      MediaRelay.Held
        { relay with
          presenter := after
          channel := relay.enqueue event } delivery := by
  by_cases held : relay.Held delivery
  · right
    rcases held with ⟨queued, listed, isQueued⟩ |
      ⟨thread, ticket, offered, sending, isOffered⟩ | sent
    · refine .inl ⟨queued, ?_, isQueued⟩
      show queued ∈ relay.enqueue event
      unfold MediaRelay.enqueue
      split
      · split
        · exact List.mem_append_left _ listed
        · exact listed
      · exact listed
    · rcases sending_presenterStep protocol stepped sending with
        still | ⟨taken, rfl⟩
      · exact .inr (.inl ⟨thread, ticket, offered, still, isOffered⟩)
      · rcases sent_or_dropped protocol stepped sending with rfl | beyond
        · refine .inl ⟨offered, ?_, isOffered⟩
          show offered ∈ relay.enqueue (.send thread true)
          simp only [MediaRelay.enqueue, sending]
          exact List.mem_append_right _ (List.mem_singleton_self _)
        · rw [isOffered] at beyond
          exact absurd present beyond
    · exact .inr (.inr sent)
  · by_cases ingests : ∃ thread now writable,
        event = .ingest thread now writable
    · obtain ⟨thread, now, writable, rfl⟩ := ingests
      rcases ingested_is_sending protocol stepped present with
        old | ⟨ticket, offered, sending, isOffered⟩
      · exact .inl ⟨old, held⟩
      · exact .inr (.inr (.inl ⟨thread, ticket, offered, sending, isOffered⟩))
    · have acts := acts_presenterStep protocol stepped
        fun thread now writable same => ingests ⟨thread, now, writable, same⟩
      exact .inl ⟨acts.deliveries delivery present, held⟩

theorem Custody.outside
    (custody : Custody relay)
    {after : Presenter}
    (stepped : presenterStep protocol relay.presenter event = some after) :
    Custody
      { relay with
        presenter := after
        channel := relay.enqueue event } := by
  refine ⟨?_, custody.forced, custody.numbered⟩
  intro delivery present
  rcases held_outside protocol stepped present with ⟨pending, unheld⟩ | held
  · have holds := (custody.held delivery pending).resolve_left unheld
    right
    show Stage.Holds _ delivery relay.stage
    cases stage : relay.stage <;> rw [stage] at holds <;> exact holds
  · exact .inl held

/-! ## Steps of the session -/

/-- What the session calls enters no delivery and leaves the threads alone. -/
theorem called
    {stage : Stage}
    (isCall : sessionStep protocol relay.presenter.shared event = some state)
    (call : relay.call protocol event stage = some after) :
    after =
        { relay with
          presenter := relay.presenter.withShared state
          stage := stage } ∧
      ∀ delivery, delivery ∈ after.pending → delivery ∈ relay.pending := by
  unfold MediaRelay.call at call
  rw [presenterStep_call protocol isCall] at call
  cases call
  exact ⟨rfl, (acts_sessionStep protocol isCall).deliveries⟩

theorem completing_forced
    (relay : MediaRelay)
    (completed : Nat)
    (delivered resync : Bool)
    (force : Bool)
    (next : Continuation) :
    relay.completing protocol completed delivered resync ≠
      .syncing force true next := by
  unfold MediaRelay.completing
  split
  · exact fun other => nomatch other
  · split
    · exact fun other => nomatch other
    · exact fun other => nomatch other

theorem holds_continueWith
    (holds : next.Holds delivery)
    (relay : MediaRelay) :
    (MediaRelay.continueWith next).Holds relay delivery := by
  cases next with
  | rest => exact holds
  | deliver event => exact holds

theorem continueWith_forced
    (continuation next : Continuation)
    (force : Bool) :
    MediaRelay.continueWith continuation ≠ .syncing force true next := by
  cases continuation with
  | rest | deliver event => exact fun other => nomatch other

variable {client : Client}

/-- What a client was sent and has not acknowledged is owed. -/
theorem owes_of_sent
    (present : delivery ∈ relay.pending)
    (sent : relay.SentTo client delivery) : relay.owes client = true := by
  unfold MediaRelay.owes
  rw [List.any_eq_true]
  exact ⟨delivery, (OrderedMap.mem_def _ _).mp present,
    by simpa [MediaRelay.SentTo] using sent⟩

theorem isStale_of_stale
    (stale : relay.Stale delivery) : relay.isStale delivery = true := by
  obtain ⟨number, listed, other⟩ := stale
  unfold MediaRelay.isStale
  rw [List.any_eq_true]
  refine ⟨(number, delivery), listed, ?_⟩
  cases attached : relay.vividClient with
  | none => simp
  | some client => simpa using other client attached

theorem vividClient_eq_some
    (vivid : relay.vividClient = some client) : relay.attached = some client :=
  Option.eq_some_of_filter_eq_some vivid

section

variable (custody : Custody relay)
include custody

theorem Custody.attach
    (idle : relay.stage = .idle)
    {id : Nat}
    {replace vivid writable : Bool}
    (settles : relay.settlesClients (.attach id replace vivid writable) = true)
    (accepted : ¬ (relay.attached.isSome && !replace) = true) :
    Custody
      { relay with
        attached := some ⟨id, vivid, relay.attachments⟩
        attachments := relay.attachments + 1
        stage := if writable then .syncing true true .rest else .idle } := by
  refine ⟨?_, ?_, ?_⟩
  · intro delivery present
    rcases custody.held delivery present with
      (queued | onItsWay | ⟨client, isClient, sent⟩) | holds
    · exact .inl (.inl queued)
    · exact .inl (.inr (.inl onItsWay))
    · have attached := vividClient_eq_some isClient
      right
      cases writable with
      | true =>
          refine .inr (.inr ⟨rfl, client.number, sent, ?_⟩)
          intro current isCurrent
          have isNew := vividClient_eq_some isCurrent
          cases isNew
          exact Nat.ne_of_gt (custody.numbered client attached)
      | false =>
          have pending : delivery ∈ relay.pending := present
          have owed := owes_of_sent pending sent
          simp [MediaRelay.settlesClients, attached, owed] at settles
          simp [attached, settles] at accepted
    · rw [idle] at holds
      exact holds.elim
  · intro force next isStage
    cases writable with
    | true =>
        cases isStage
        rfl
    | false => cases isStage
  · intro client isClient
    cases isClient
    exact Nat.lt_succ_self _

theorem Custody.disconnected
    (idle : relay.stage = .idle)
    {id : Nat}
    (settles : relay.settlesClients (.disconnected id) = true)
    (isClient : relay.clientIs id = true) :
    Custody { relay with attached := none } := by
  refine ⟨?_, ?_, fun client none => nomatch none⟩
  · intro delivery present
    rcases custody.held delivery present with
      (queued | onItsWay | ⟨client, isVivid, sent⟩) | holds
    · exact .inl (.inl queued)
    · exact .inl (.inr (.inl onItsWay))
    · have attached := vividClient_eq_some isVivid
      have pending : delivery ∈ relay.pending := present
      have owed := owes_of_sent pending sent
      have same : client.id = id := by
        simpa [MediaRelay.clientIs, attached] using isClient
      simp [MediaRelay.settlesClients, attached, owed, same] at settles
    · rw [idle] at holds
      exact holds.elim
  · intro force next isStage
    exact custody.forced force next isStage

/-- What the session does between two events keeps what is held. -/
theorem Custody.handle
    (idle : relay.stage = .idle)
    {event : RelayEvent}
    (settles : relay.settlesClients event = true)
    (handled : Relay.handle protocol relay event = some after) :
    Custody after := by
  have held : ∀ delivery, delivery ∈ relay.pending → relay.Held delivery := by
    intro delivery present
    refine (custody.held delivery present).resolve_right ?_
    rw [idle]
    exact id
  cases event
  case attach id replace vivid writable =>
    simp only [Relay.handle] at handled
    split at handled
    · cases handled
      exact custody
    · rename_i accepted
      cases handled
      exact custody.attach idle settles accepted
  case acknowledge id delivery delivered =>
    simp only [Relay.handle] at handled
    split at handled
    · obtain ⟨rfl, fewer⟩ := called protocol rfl handled
      refine ⟨?_, ?_, custody.numbered⟩
      · exact fun other present => .inl (held other (fewer other present))
      · exact fun force next isStage =>
          absurd isStage (completing_forced protocol _ _ _ _ _ _)
    · cases handled
      exact custody
  case retry id =>
    simp only [Relay.handle] at handled
    split at handled
    · cases handled
      exact ⟨fun delivery present => .inl (held delivery present),
        fun _ _ other => (nomatch other), custody.numbered⟩
    · cases handled
      exact custody
  case detach id writable =>
    simp only [Relay.handle] at handled
    split at handled
    · cases handled
      exact ⟨fun _ _ => .inr trivial, fun _ _ other => (nomatch other),
        fun _ none => nomatch none⟩
    · cases handled
      exact custody
  case disconnected id =>
    simp only [Relay.handle] at handled
    split at handled
    · rename_i isClient
      cases handled
      exact custody.disconnected idle settles isClient
    · cases handled
      exact custody
  case relayout =>
    cases handled
    exact { custody with }
  case render sent =>
    simp only [Relay.handle] at handled
    split at handled
    · cases handled
      cases sent with
      | true =>
          exact ⟨fun delivery present => .inl (held delivery present),
            fun _ _ other => (nomatch other), custody.numbered⟩
      | false =>
          exact ⟨fun _ _ => .inr (.inr (.inl rfl)),
            fun _ _ other => (nomatch other), fun _ none => nomatch none⟩
    · cases handled
      exact custody
  case tick =>
    cases handled
    exact ⟨fun delivery present => .inl (held delivery present),
      fun _ _ other => (nomatch other), custody.numbered⟩
  case receive =>
    simp only [Relay.handle] at handled
    split at handled
    · cases handled
    · rename_i event rest isChannel
      cases handled
      refine ⟨?_, fun _ _ other => (nomatch other), custody.numbered⟩
      intro delivery present
      rcases held delivery present with
        ⟨queued, listed, isQueued⟩ | onItsWay | sent
      · rw [isChannel] at listed
        rcases List.mem_cons.mp listed with rfl | later
        · exact .inr (.inl isQueued)
        · exact .inl (.inl ⟨queued, later, isQueued⟩)
      · exact .inl (.inr (.inl onItsWay))
      · exact .inl (.inr (.inr sent))
  all_goals cases handled

/-- A projection hides what earlier clients owe. -/
theorem Custody.project
    {view : View}
    {joining : Bool}
    (projecting : relay.stage = .projecting view joining next)
    (hides : joining = true → relay.hidesStale view = true)
    (call : relay.call protocol (.snapshot view.panes view.viewportOffset)
      (MediaRelay.continueWith next) = some after) :
    Custody after := by
  obtain ⟨rfl, fewer⟩ := called protocol rfl call
  refine ⟨?_, ?_, custody.numbered⟩
  · intro delivery present
    have pending := fewer delivery present
    rcases custody.held delivery pending with held | holds
    · exact .inl held
    · rw [projecting] at holds
      rcases holds with taken | ⟨joined, stale⟩
      · exact .inr (holds_continueWith taken _)
      · obtain ⟨entry, found⟩ := Option.isSome_iff_exists.mp
          ((OrderedMap.find?_isSome_iff _ _).mpr pending)
        have projected := projected_of_mem_snapshot protocol present found
        have hidden := List.all_eq_true.mp (hides joined) (delivery, entry)
          (OrderedMap.find?_eq_some_iff.mp found)
        rw [isStale_of_stale stale, projected] at hidden
        cases hidden
  · exact fun force continuation isStage =>
      absurd isStage (continueWith_forced _ _ _)

theorem Custody.synchronise
    {force joining : Bool}
    (syncing : relay.stage = .syncing force joining next)
    {view : Option View}
    (settles : relay.settlesClients (.synchronise view) = true)
    (proceeded : Relay.proceed protocol relay (.synchronise view) =
      some after) :
    Custody after := by
  simp only [Relay.proceed, syncing] at proceeded
  have holds : ∀ delivery, delivery ∈ relay.pending →
      relay.Held delivery ∨ next.Holds delivery ∨
        relay.vividClient = none ∨
          (joining = true ∧ relay.Stale delivery) := by
    intro delivery present
    have known := custody.held delivery present
    rw [syncing] at known
    exact known
  split at proceeded
  · obtain ⟨rfl, -⟩ := called protocol rfl proceeded
    refine ⟨?_, ?_, custody.numbered⟩
    · exact fun delivery present =>
        absurd present (not_mem_deactivateBridge _ _)
    · exact fun force continuation isStage =>
        absurd isStage (continueWith_forced _ _ _)
  · rename_i client isVivid
    cases proceeded
    refine ⟨?_, fun force continuation isStage =>
      absurd isStage (continueWith_forced _ _ _), custody.numbered⟩
    intro delivery present
    rcases holds delivery present with held | taken | none | ⟨rfl, stale⟩
    · exact .inl held
    · exact .inr (holds_continueWith taken _)
    · rw [isVivid] at none
      cases none
    · simp only [MediaRelay.settlesClients, syncing, isVivid,
        Option.isNone_some, Bool.false_or] at settles
      have fresh := List.all_eq_true.mp settles delivery
        ((OrderedMap.mem_def _ _).mp present)
      rw [isStale_of_stale stale] at fresh
      cases fresh
  · rename_i client view isVivid
    split at proceeded
    · cases proceeded
      refine ⟨?_, fun _ _ other => (nomatch other), custody.numbered⟩
      intro delivery present
      rcases holds delivery present with held | taken | none | joined
      · exact .inl held
      · exact .inr (.inl taken)
      · rw [isVivid] at none
        cases none
      · exact .inr (.inr joined)
    · rename_i current
      cases proceeded
      refine ⟨?_, fun force continuation isStage =>
        absurd isStage (continueWith_forced _ _ _), custody.numbered⟩
      intro delivery present
      rcases holds delivery present with held | taken | none | ⟨rfl, -⟩
      · exact .inl held
      · exact .inr (holds_continueWith taken _)
      · rw [isVivid] at none
        cases none
      · -- The synchronisation of an `Attach` is forced.
        rw [custody.forced force next syncing] at current
        exact absurd rfl current

theorem Custody.forward
    {event : MediaEvent}
    (forwarding : relay.stage = .forwarding event)
    (proceeded : Relay.proceed protocol relay (.forward writable) =
      some after) :
    Custody after := by
  simp only [Relay.proceed, forwarding] at proceeded
  have holds : ∀ delivery, delivery ∈ relay.pending →
      relay.Held delivery ∨ event.deliveryId = delivery := by
    intro delivery present
    have known := custody.held delivery present
    rw [forwarding] at known
    exact known
  split at proceeded
  · rename_i client isVivid
    have vivid := Option.eq_some_of_filter_eq_some isVivid
    cases proceeded
    refine ⟨?_, fun _ _ other => (nomatch other), custody.numbered⟩
    intro delivery present
    left
    rcases holds delivery present with
      (queued | onItsWay | ⟨other, isOther, sent⟩) | rfl
    · exact .inl queued
    · exact .inr (.inl onItsWay)
    · exact .inr (.inr ⟨other, isOther, List.mem_cons_of_mem _ sent⟩)
    · exact .inr (.inr ⟨client, vivid, List.mem_cons_self ..⟩)
  · obtain ⟨rfl, fewer⟩ := called protocol rfl proceeded
    refine ⟨?_, fun force next isStage =>
      absurd isStage (completing_forced protocol _ _ _ _ _ _),
      custody.numbered⟩
    intro delivery present
    rcases holds delivery (fewer delivery present) with held | rfl
    · exact .inl held
    · exact absurd present (not_mem_completeBridgeDelivery protocol _ _ _)

theorem Custody.proceed
    {event : RelayEvent}
    (settles : relay.settlesClients event = true)
    (proceeded : Relay.proceed protocol relay event = some after) :
    Custody after := by
  cases event
  case synchronise view =>
    cases stage : relay.stage with
    | syncing force joining next =>
        exact custody.synchronise protocol stage settles proceeded
    | _ => simp [Relay.proceed, stage] at proceeded
  case project writable =>
    simp only [Relay.proceed] at proceeded
    split at proceeded
    · rename_i view joining next projecting
      obtain ⟨projected, call, isAfter⟩ := Option.map_eq_some_iff.mp proceeded
      have kept := custody.project protocol projecting ?_ call
      · rw [← isAfter]
        split
        · exact { kept with }
        · exact kept
      · rintro rfl
        simpa only [MediaRelay.settlesClients, projecting] using settles
    · cases proceeded
  case forward writable =>
    cases stage : relay.stage with
    | forwarding event => exact custody.forward protocol stage proceeded
    | _ => simp [Relay.proceed, stage] at proceeded
  case recover =>
    simp only [Relay.proceed] at proceeded
    split at proceeded
    · rename_i key resync recovering
      obtain ⟨recovered, call, isAfter⟩ := Option.map_eq_some_iff.mp proceeded
      obtain ⟨rfl, fewer⟩ := called protocol rfl call
      have held : ∀ delivery, delivery ∈ relay.pending →
          relay.Held delivery := by
        intro delivery present
        refine (custody.held delivery present).resolve_right ?_
        rw [recovering]
        exact id
      rw [← isAfter]
      cases resync with
      | true | false =>
          exact ⟨fun delivery present =>
            .inl (held delivery (fewer delivery present)),
            fun _ _ other => (nomatch other), custody.numbered⟩
    · cases proceeded
  case release =>
    simp only [Relay.proceed] at proceeded
    split at proceeded
    · obtain ⟨rfl, -⟩ := called protocol rfl proceeded
      exact ⟨fun delivery present =>
        absurd present (not_mem_deactivateBridge _ _),
        fun _ _ other => (nomatch other), custody.numbered⟩
    · cases proceeded
  all_goals cases proceeded

end

/-! ## Runs -/

theorem Custody.step
    {relay after : MediaRelay}
    (custody : Custody relay)
    {event : RelayEvent}
    (settles : relay.settlesClients event = true)
    (stepped : relayStep protocol relay event = some after) :
    Custody after := by
  unfold relayStep at stepped
  split at stepped
  · split at stepped
    · obtain ⟨presenter, outside, rfl⟩ := Option.map_eq_some_iff.mp stepped
      exact custody.outside protocol outside
    · cases stepped
  · split at stepped
    · rename_i idle
      exact custody.handle protocol idle settles stepped
    · exact custody.proceed protocol settles stepped

theorem custody_start (config : Config) : Custody (.start config) where
  held _ present := absurd present (OrderedMap.not_mem_empty _)
  forced _ _ other := nomatch other
  numbered _ none := nomatch none

theorem reachable_custody
    {config : Config}
    (reachable : (relayMachine protocol config).Reachable
      (fun before event => before.settlesClients event = true) relay) :
    Custody relay := by
  apply reachable.invariant
  · rintro start rfl
    exact custody_start config
  · intro before event after custody settles stepped
    exact custody.step protocol settles stepped

/-- In every run in which no client goes that owes an acknowledgement, no
pending delivery outlives its client. -/
theorem deliveries_held
    {config : Config}
    {relay : MediaRelay}
    (reachable : (relayMachine protocol config).Reachable
      (fun before event => before.settlesClients event = true) relay)
    (idle : relay.stage = .idle) : DeliveriesHeld protocol relay := by
  have held : ∀ delivery, delivery ∈ relay.pending →
      relay.Held delivery := by
    intro delivery present
    refine ((reachable_custody protocol reachable).held delivery
      present).resolve_right ?_
    rw [idle]
    exact id
  refine ⟨held, ?_, ?_⟩
  · intro client delivery delivered isVivid sent
    have isClient : relay.clientIs client.id = true := by
      simp [MediaRelay.clientIs, vividClient_eq_some isVivid]
    have stepped : relayStep protocol relay
        (.acknowledge client.id delivery delivered) =
          relay.call protocol (.completeDelivery delivery delivered)
            (relay.completing protocol delivery delivered true) := by
      simp only [relayStep, idle, Relay.handle, isClient, if_true]
    rw [stepped]
    unfold MediaRelay.call
    rw [presenterStep_call protocol rfl]
    exact ⟨_, rfl, not_mem_completeBridgeDelivery protocol
      relay.presenter.shared delivery delivered⟩
  · intro none drained still
    have gone : relay.pending.entries = [] := by
      apply List.eq_nil_iff_forall_not_mem.mpr
      intro entry listed
      have present := OrderedMap.mem_of_find?_eq_some
        (OrderedMap.find?_eq_some_iff.mpr listed)
      rcases held entry.1 present with
        ⟨queued, listed, -⟩ | onItsWay | ⟨client, isClient, -⟩
      · rw [drained] at listed
        cases listed
      · exact still entry.1 onItsWay
      · rw [none] at isClient
        cases isClient
    refine ⟨?_, ?_, ?_⟩
    · intro delivery present
      rw [OrderedMap.mem_def] at present
      unfold OrderedMap.keys at present
      rw [gone] at present
      cases present
    · unfold OrderedMap.total
      rw [gone]
      rfl
    · intro session circumstance key epoch envelope
      have noneAwaited : relay.presenter.shared.deliveries.entries.any
          (fun entry => entry.2.source == key) = false := by
        rw [show relay.presenter.shared.deliveries.entries = [] from gone]
        rfl
      simp only [runTask, noneAwaited, Bool.false_eq_true, if_false]

/-- Client 1 attaches while pane 1 shows video 4, and is sent a packet. -/
def sendingPacket :
    List RelayEvent :=
  (connecting ++ creatingVideo).map .outside ++
    [.attach 1 false true true,
      .synchronise (some ⟨[1], fun _ => 0⟩),
      .project true] ++
    (receivingPacket 0).map .outside ++
    [.outside (.send 1 true),
      .receive,
      .synchronise (some ⟨[1], fun _ => 0⟩),
      .forward true]

/-- The packet is pending, and its client can acknowledge it. -/
theorem deliveries_held_sent :
    let protocol := wellFormedProtocol fun _ _ => true
    ∃ relay,
      Machine.follow (relayStep protocol) MediaRelay.settlesClients
          (.start .standard) sendingPacket = some relay ∧
        relay.pending.keys = [1] ∧ relay.sent = [(0, 1)] ∧
        DeliveriesHeld protocol relay := by
  intro protocol
  have runs : ((Machine.follow (relayStep protocol) MediaRelay.settlesClients
      (.start .standard) sendingPacket).map fun relay =>
        (relay.pending.keys, relay.sent,
          relay.stage.isIdle)) = some ([1], [(0, 1)], true) := by
    decide +kernel
  obtain ⟨relay, followed, holds⟩ := Option.map_eq_some_iff.mp runs
  obtain ⟨pending, rest⟩ := Prod.mk.inj holds
  obtain ⟨sent, rests⟩ := Prod.mk.inj rest
  have reachable : (relayMachine protocol .standard).Reachable
      (fun before event => before.settlesClients event = true) relay :=
    Machine.Reachable.follow (fun _ _ _ stepped => stepped)
      (fun _ _ settles => settles) (.initial rfl) followed
  refine ⟨relay, followed, pending, sent,
    deliveries_held protocol reachable (Stage.isIdle_iff.mp rests)⟩

/-- The connection of client 1 ends before it has acknowledged the packet: the
delivery stays pending with no client. -/
theorem delivery_outlives_client :
    let protocol := wellFormedProtocol fun _ _ => true
    ∃ relay,
      (relayMachine protocol .standard).Reachable (fun _ _ => True) relay ∧
        relay.stage = .idle ∧ relay.attached = none ∧ relay.channel = [] ∧
        relay.pending.keys = [1] ∧ ¬ DeliveriesHeld protocol relay := by
  intro protocol
  have runs : ((Machine.follow (relayStep protocol) (fun _ _ => true)
      (.start .standard) (sendingPacket ++ [.disconnected 1])).map
        fun relay =>
          (relay.pending.keys, relay.attached, relay.channel.length,
            relay.presenter.threads.entries.all fun entry =>
              entry.2.phase.sending?.isNone,
            relay.stage.isIdle)) = some ([1], none, 0, true, true) := by
    decide +kernel
  obtain ⟨relay, followed, holds⟩ := Option.map_eq_some_iff.mp runs
  obtain ⟨pending, rest⟩ := Prod.mk.inj holds
  obtain ⟨attached, rest⟩ := Prod.mk.inj rest
  obtain ⟨empty, rest⟩ := Prod.mk.inj rest
  obtain ⟨calm, rests⟩ := Prod.mk.inj rest
  have drained := List.eq_nil_of_length_eq_zero empty
  have reachable : (relayMachine protocol .standard).Reachable
      (fun _ _ => True) relay :=
    Machine.Reachable.follow (fun _ _ _ stepped => stepped)
      (fun _ _ _ => trivial) (.initial rfl) followed
  refine ⟨relay, reachable, Stage.isIdle_iff.mp rests, attached, drained,
    pending, ?_⟩
  intro held
  have present : 1 ∈ relay.pending := by
    rw [OrderedMap.mem_def, pending]
    exact List.mem_singleton_self 1
  rcases held.held 1 present with
    ⟨event, listed, -⟩ | ⟨thread, ticket, event, sending, -⟩ |
      ⟨client, isClient, -⟩
  · rw [drained] at listed
    cases listed
  · obtain ⟨entry, found, isPhase⟩ := Option.map_eq_some_iff.mp sending
    have none := List.all_eq_true.mp calm (thread, entry)
      (OrderedMap.find?_eq_some_iff.mp found)
    rw [isPhase] at none
    cases none
  · unfold MediaRelay.vividClient at isClient
    rw [attached] at isClient
    cases isClient

end Relay
end Vvmux
