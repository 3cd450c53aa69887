import Vvmux.Media.Acts

/-!
# The relay of media from the presenter to the client

The session takes media events from a bounded queue, sends them to the client
that is attached, and passes what the client acknowledges back to the virtual
presenter.  It handles one event after the other, but the presenter's other
threads run between any two of its locks.
-/

namespace Vvmux
namespace Relay

open Library Media

variable (protocol : Protocol)

/-- `MEDIA_EVENT_QUEUE` -/
def mediaEventQueue : Nat := 256

/-- `AttachedClient` -/
structure Client where
  id : Nat
  vivid : Bool
  /-- History: how many clients were attached before. -/
  number : Nat
deriving DecidableEq

/-- `MediaProjectionKey` -/
structure MediaProjectionKey where
  virtualRevision : Nat
  layoutRevision : Nat
deriving DecidableEq

/-- The panes of the active tab, and how far each is scrolled back. -/
structure View where
  panes : List PaneId
  viewportOffset : PaneId → Nat

/-- What the session goes on with when the media is synchronised. -/
inductive Continuation where
  | rest
  | deliver (event : MediaEvent)

/-- What the session does next. -/
inductive Stage where
  | idle
  /-- `sync_media_inner`; `joining` is history: it ends an `Attach`. -/
  | syncing (force joining : Bool) (next : Continuation)
  /-- The projection is taken of a view. -/
  | projecting (view : View) (joining : Bool) (next : Continuation)
  /-- `forward_media`, behind its synchronisation. -/
  | forwarding (event : MediaEvent)
  /-- `complete_bridge_delivery` asks for a key frame; the synchronisation
  behind it is that of an acknowledgement. -/
  | recovering (key : SourceKey) (resync : Bool)
  /-- `Detach`, behind its answer. -/
  | detaching

/-- The session waits for its next event. -/
def Stage.isIdle :
    Stage → Bool
  | .idle => true
  | _ => false

theorem Stage.isIdle_iff
    {stage : Stage} : stage.isIdle = true ↔ stage = .idle := by
  cases stage <;> simp [isIdle]

structure MediaRelay where
  presenter : Presenter
  /-- The queue of media events, the next one first. -/
  channel : List MediaEvent
  attached : Option Client
  lastProjection : Option MediaProjectionKey
  layoutRevision : Nat
  stage : Stage
  /-- History: how many clients were attached. -/
  attachments : Nat
  /-- History: the deliveries that were sent, and to which client. -/
  sent : List (Nat × Nat)

inductive RelayEvent where
  /-- A step of the presenter's own threads, or a call of the session that
  touches no delivery. -/
  | outside (event : PresenterEvent)
  | attach (id : Nat) (replace vivid writable : Bool)
  | acknowledge (id delivery : Nat) (delivered : Bool)
  | retry (id : Nat)
  | detach (id : Nat) (writable : Bool)
  | disconnected (id : Nat)
  /-- The layout changes. -/
  | relayout
  /-- A frame is rendered, and is sent or not. -/
  | render (sent : Bool)
  | tick
  | receive
  /-- The view of the session, if it has a tab. -/
  | synchronise (view : Option View)
  | project (writable : Bool)
  | forward (writable : Bool)
  | recover
  | release

namespace MediaRelay

/-- `client_is` -/
def clientIs (relay : MediaRelay) (id : Nat) : Bool :=
  relay.attached.any fun client => client.id == id

/-- The client that takes media. -/
def vividClient (relay : MediaRelay) : Option Client :=
  relay.attached.filter Client.vivid

/-- A step of the session in the presenter. -/
def call
    (relay : MediaRelay)
    (event : PresenterEvent)
    (stage : Stage) : Option MediaRelay :=
  (presenterStep protocol relay.presenter event).map fun presenter =>
    { relay with
      presenter := presenter
      stage := stage }

/-- The stage behind a synchronisation. -/
def continueWith :
    Continuation → Stage
  | .rest => .idle
  | .deliver event => .forwarding event

/-- The stage behind a lock of `complete_bridge_delivery`. -/
def completing
    (relay : MediaRelay)
    (delivery : Nat)
    (delivered resync : Bool) : Stage :=
  match relay.presenter.shared.deliveries.find? delivery with
  | none => .idle
  | some pending =>
      if (completeBridgeDelivery protocol relay.presenter.shared delivery
          delivered).2 then
        .recovering pending.source resync
      else .idle

/-- What comes when the channel takes an event or not. -/
def enqueue (relay : MediaRelay) (event : PresenterEvent) : List MediaEvent :=
  match event with
  | .send thread true =>
      match relay.presenter.phase? thread with
      | some (.sending _ event) => relay.channel ++ [event]
      | _ => relay.channel
  | _ => relay.channel

/-- What releases deliveries is called only where the session does, and an event
is offered to the queue as it is. -/
def permits
    (relay : MediaRelay) :
    PresenterEvent → Bool
  | .snapshot _ _ => false
  | .deactivateBridge => false
  | .completeDelivery _ _ => false
  | .send _ taken =>
      taken == decide (relay.channel.length < mediaEventQueue)
  | _ => true

/-- `should_sync_media` -/
def shouldSync (relay : MediaRelay) (force : Bool) : Bool :=
  force || decide (relay.lastProjection ≠ some
    ⟨relay.presenter.shared.projectionRevision, relay.layoutRevision⟩)

end MediaRelay

/-- A message of a client or another event that the session handles; it begins
when the one before has been handled. -/
def handle
    (relay : MediaRelay) :
    RelayEvent → Option MediaRelay
  | .attach id replace vivid writable =>
      if relay.attached.isSome && !replace then some relay
      else
        some
          { relay with
            attached := some ⟨id, vivid, relay.attachments⟩
            attachments := relay.attachments + 1
            stage := if writable then .syncing true true .rest else .idle }
  | .acknowledge id delivery delivered =>
      if relay.clientIs id then
        relay.call protocol (.completeDelivery delivery delivered)
          (relay.completing protocol delivery delivered true)
      else some relay
  | .retry id =>
      if relay.clientIs id then
        some
          { relay with
            lastProjection := none
            stage := .syncing true false .rest }
      else some relay
  | .detach id writable =>
      if relay.clientIs id && writable then
        some
          { relay with
            attached := none
            stage := .detaching }
      else some relay
  | .disconnected id =>
      if relay.clientIs id then some { relay with attached := none }
      else some relay
  | .relayout =>
      some
        { relay with
          layoutRevision := (relay.layoutRevision + 1) % 2 ^ 64 }
  | .render sent =>
      if relay.attached.isSome then
        some
          { relay with
            attached := if sent then relay.attached else none
            stage := .syncing false false .rest }
      else some relay
  | .tick => some { relay with stage := .syncing false false .rest }
  | .receive =>
      match relay.channel with
      | [] => none
      | event :: rest =>
          some
            { relay with
              channel := rest
              stage := .syncing false false (.deliver event) }
  | _ => none

/-- A step behind the beginning of an event: each takes the presenter's lock at
most once. -/
def proceed
    (relay : MediaRelay) :
    RelayEvent → Option MediaRelay
  | .synchronise view =>
      match relay.stage with
      | .syncing force joining next =>
          match relay.vividClient, view with
          | none, _ =>
              relay.call protocol .deactivateBridge (MediaRelay.continueWith next)
          | some _, none =>
              some { relay with stage := MediaRelay.continueWith next }
          | some _, some view =>
              if relay.shouldSync force then
                some { relay with stage := .projecting view joining next }
              else some { relay with stage := MediaRelay.continueWith next }
      | _ => none
  | .project writable =>
      match relay.stage with
      | .projecting view _ next =>
          (relay.call protocol (.snapshot view.panes view.viewportOffset)
            (MediaRelay.continueWith next)).map fun projected =>
              if writable then
                { projected with
                  lastProjection := some
                    ⟨projected.presenter.shared.projectionRevision,
                      projected.layoutRevision⟩ }
              else projected
      | _ => none
  | .forward writable =>
      match relay.stage with
      | .forwarding event =>
          match relay.vividClient.filter fun _ => writable with
          | some client =>
              some
                { relay with
                  stage := .idle
                  sent := (client.number, event.deliveryId) :: relay.sent }
          | none =>
              relay.call protocol (.completeDelivery event.deliveryId false)
                (relay.completing protocol event.deliveryId false false)
      | _ => none
  | .recover =>
      match relay.stage with
      | .recovering key resync =>
          (relay.call protocol
            (.requestKeyframes [(key, none, .transportLoss)])
            (if resync then .syncing true false .rest else .idle)).map
              fun recovered =>
                if resync then { recovered with lastProjection := none }
                else recovered
      | _ => none
  | .release =>
      match relay.stage with
      | .detaching => relay.call protocol .deactivateBridge .idle
      | _ => none
  | _ => none

/-- One step of the relay. -/
def relayStep (relay : MediaRelay) (event : RelayEvent) : Option MediaRelay :=
  match event with
  | .outside step =>
      if relay.permits step then
        (presenterStep protocol relay.presenter step).map fun presenter =>
          { relay with
            presenter := presenter
            channel := relay.enqueue step }
      else none
  | event =>
      match relay.stage with
      | .idle => handle protocol relay event
      | _ => proceed protocol relay event

/-- A relay that has just started. -/
def MediaRelay.start (config : Config) : MediaRelay where
  presenter := .start config true
  channel := []
  attached := none
  lastProjection := none
  layoutRevision := 0
  stage := .idle
  attachments := 0
  sent := []

/-- The relay with the configuration of its presenter. -/
def relayMachine (config : Config) : Machine MediaRelay RelayEvent where
  initial relay := relay = .start config
  step before event after := relayStep protocol before event = some after

end Relay
end Vvmux
