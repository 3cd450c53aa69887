import Mathlib.Algebra.BigOperators.Group.List.Basic
import Mathlib.Algebra.Order.Group.Nat
import Vvmux.Bridge.Dispatcher
import Vvmux.Library.OrderedMap

/-!
# Credit from the outer presenter

The reader enters what the presenter grants into a source's ledger, the worker
registers the ledger when it handles the reply to its request, and the media
writers reserve from it.  The reader takes the records in the order in which
the presenter sent them; the worker handles a reply later than that.
-/

namespace Vvmux

open Library

namespace Bridge

/-! ## Ledgers -/

/-- `messages::Credits` -/
@[ext] structure Credits where
  bytes : Nat
  packets : Nat
  fragments : Nat
deriving DecidableEq

namespace Credits

instance : Zero Credits := ⟨⟨0, 0, 0⟩⟩

instance : Add Credits where
  add one other :=
    ⟨one.bytes + other.bytes, one.packets + other.packets,
      one.fragments + other.fragments⟩

@[simp] theorem zero_bytes : (0 : Credits).bytes = 0 := rfl

@[simp] theorem zero_packets : (0 : Credits).packets = 0 := rfl

@[simp] theorem zero_fragments : (0 : Credits).fragments = 0 := rfl

@[simp] theorem add_bytes
    (one other : Credits) :
    (one + other).bytes = one.bytes + other.bytes := rfl

@[simp] theorem add_packets
    (one other : Credits) :
    (one + other).packets = one.packets + other.packets := rfl

@[simp] theorem add_fragments
    (one other : Credits) :
    (one + other).fragments = one.fragments + other.fragments := rfl

instance : AddCommMonoid Credits where
  add_assoc one two three := by
    ext <;> simp [Nat.add_assoc]
  zero_add one := by
    ext <;> simp
  add_zero one := by
    ext <;> simp
  add_comm one two := by
    ext <;> simp [Nat.add_comm]
  nsmul := nsmulRec

/-- What a history of credits has for a source. -/
def sumFor (history : List (Nat × Credits)) (source : Nat) : Credits :=
  ((history.filter fun entry => decide (entry.1 = source)).map Prod.snd).sum

theorem sumFor_cons_self
    (credits : Credits)
    (history : List (Nat × Credits))
    (source : Nat) :
    sumFor ((source, credits) :: history) source =
      credits + sumFor history source := by
  simp [sumFor]

theorem sumFor_cons_of_ne
    {source other : Nat}
    (differs : other ≠ source)
    (credits : Credits)
    (history : List (Nat × Credits)) :
    sumFor ((other, credits) :: history) source = sumFor history source := by
  simp [sumFor, differs]

end Credits

/-- The operations of a credit ledger.  Those that can refuse leave the ledger
as it was when they do. -/
structure LedgerOps (Ledger : Type*) where
  new : Credits → Ledger
  default : Ledger
  grant : Ledger → Credits → Option Ledger
  markLost : Ledger → Ledger
  isLost : Ledger → Bool
  canConsume : Ledger → Nat → Bool
  consume : Ledger → Nat → Option Ledger
  available : Ledger → Credits
  /-- What a record of that many bytes consumes. -/
  cost : Nat → Credits

/-- Grants are added and consumption is subtracted, with checks. -/
structure LedgerOps.Lawful
    {Ledger : Type*}
    (ops : LedgerOps Ledger) : Prop where
  available_new : ∀ credits, ops.available (ops.new credits) = credits
  isLost_new : ∀ credits, ops.isLost (ops.new credits) = false
  available_grant : ∀ ledger credits granted,
    ops.grant ledger credits = some granted →
      ops.available granted = ops.available ledger + credits
  isLost_grant : ∀ ledger credits granted,
    ops.grant ledger credits = some granted →
      ops.isLost granted = ops.isLost ledger
  available_consume : ∀ ledger bytes consumed,
    ops.consume ledger bytes = some consumed →
      ops.available consumed + ops.cost bytes = ops.available ledger
  isLost_consume : ∀ ledger bytes consumed,
    ops.consume ledger bytes = some consumed →
      ops.isLost consumed = ops.isLost ledger
  available_markLost : ∀ ledger,
    ops.available (ops.markLost ledger) = ops.available ledger
  isLost_markLost : ∀ ledger, ops.isLost (ops.markLost ledger) = true

/-! ## The shared control state and the worker -/

/-- `messages::SourceReady` -/
structure SourceReady where
  sourceId : Nat
  mediaConnectionRequired : Bool
  credits : Credits
deriving DecidableEq

/-- The body of a reply; that of a `SOURCE_READY` may be unreadable. -/
inductive ReplyBody where
  | sourceReady (ready : Option SourceReady)
  | ok
  | other
deriving DecidableEq

structure ControlReply where
  requestId : Nat
  objectId : Nat
  body : ReplyBody
deriving DecidableEq

/-- A record that the reader gets; bodies that cannot be parsed are `none`. -/
inductive OuterRecord where
  | credit (objectId : Nat) (credits : Option Credits)
  | sourceLost (objectId : Nat) (sourceId : Option Nat)
  | reply (reply : ControlReply)
  /-- Any other record, and whether it was taken. -/
  | other (taken : Bool)
deriving DecidableEq

/-- How far the destruction of a source has got. -/
inductive Destruction where
  | none
  | requested (request : Nat)
  | acknowledged
deriving DecidableEq

/-- How far the worker has got with an outer source. -/
inductive Stage where
  /-- Its creation is requested. -/
  | requested (request : Nat)
  /-- `wait_source_ready` has returned. -/
  | ready (ready : SourceReady)
  /-- `register_source` has refused it. -/
  | refused
  | failed
  /-- It was registered with that credit, or it needs no connection. -/
  | live (initial : Option Credits) (destruction : Destruction)
  | retired
deriving DecidableEq

/-- The state that the reader, the worker and the media writers share. -/
structure OuterCredits (Ledger : Type*) where
  credits : OrderedMap Nat Ledger
  sourceLosses : List Nat
  pendingRequests : List Nat
  abandonedRequests : List Nat
  replies : OrderedMap Nat ControlReply
  closed : Bool
  readerGone : Bool
  nextRequest : Nat
  nextUpstream : Nat
  sources : OrderedMap Nat Stage
  /-- History: the sources whose `SOURCE_READY` the reader has got. -/
  arrived : List Nat
  /-- History: the sources whose destruction was acknowledged. -/
  acknowledged : List Nat
  /-- History: what the ledgers accepted. -/
  granted : List (Nat × Credits)
  /-- History: the sources lost since their `SOURCE_READY`. -/
  losses : List Nat
  /-- History: what the reservations that returned took. -/
  reserved : List (Nat × Credits)

namespace OuterCredits

variable {Ledger : Type*}

def start (nextRequest nextUpstream : Nat) : OuterCredits Ledger where
  credits := .empty
  sourceLosses := []
  pendingRequests := []
  abandonedRequests := []
  replies := .empty
  closed := false
  readerGone := false
  nextRequest := nextRequest
  nextUpstream := nextUpstream
  sources := .empty
  arrived := []
  acknowledged := []
  granted := []
  losses := []
  reserved := []

/-! ## The reader -/

/-- The reader with a `CREDIT` record: it makes a ledger where none is. -/
def routeCredit
    (ops : LedgerOps Ledger)
    (state : OuterCredits Ledger)
    (objectId : Nat)
    (body : Option Credits) : OuterCredits Ledger :=
  match body with
  | none => { state with closed := true }
  | some credits =>
      let ledger := (state.credits.find? objectId).getD ops.default
      match ops.grant ledger credits with
      | none =>
          { state with
            credits := state.credits.insert objectId ledger
            closed := true }
      | some granted =>
          { state with
            credits := state.credits.insert objectId granted
            granted := (objectId, credits) :: state.granted }

/-- The reader with a `SOURCE_LOST` record: it marks a ledger where one is. -/
def routeSourceLost
    (ops : LedgerOps Ledger)
    (state : OuterCredits Ledger)
    (objectId : Nat)
    (body : Option Nat) : OuterCredits Ledger :=
  match body with
  | none => { state with closed := true }
  | some sourceId =>
      if sourceId ≠ objectId then { state with closed := true }
      else
        { state with
          credits := state.credits.modify sourceId ops.markLost
          sourceLosses := state.sourceLosses ++ [sourceId]
          losses :=
            if sourceId ∈ state.arrived then sourceId :: state.losses
            else state.losses }

/-- The source of which the reply brings the `SOURCE_READY`. -/
def arrives (state : OuterCredits Ledger) (reply : ControlReply) : Bool :=
  match state.sources.find? reply.objectId, reply.body with
  | some (.requested request), .sourceReady _ =>
      decide (request = reply.requestId)
  | _, _ => false

/-- The reply acknowledges the destruction of its source. -/
def acknowledges (state : OuterCredits Ledger) (reply : ControlReply) : Bool :=
  match state.sources.find? reply.objectId, reply.body with
  | some (.live _ (.requested request)), .ok =>
      decide (request = reply.requestId)
  | _, _ => false

/-- The histories with a reply that the reader got. -/
def noteReply
    (state : OuterCredits Ledger)
    (reply : ControlReply) : OuterCredits Ledger :=
  { state with
    arrived :=
      if state.arrives reply then reply.objectId :: state.arrived
      else state.arrived
    acknowledged :=
      if state.acknowledges reply then reply.objectId :: state.acknowledged
      else state.acknowledged }

/-- The reader with a reply. -/
def storeReply
    (state : OuterCredits Ledger)
    (reply : ControlReply) : OuterCredits Ledger :=
  if reply.requestId = 0 then state
  else if reply.requestId ∈ state.abandonedRequests then
    { state with
      abandonedRequests := state.abandonedRequests.erase reply.requestId }
  else if reply.requestId ∈ state.pendingRequests then
    let pending := state.pendingRequests.erase reply.requestId
    if maxPendingControlReplies ≤ state.replies.size then
      { state with pendingRequests := pending, closed := true }
    else
      { state with
        pendingRequests := pending
        replies := state.replies.insert reply.requestId reply
        closed := state.closed ||
          (state.replies.find? reply.requestId).isSome }
  else { state with closed := true }

/-- The reader with a record; it ends where the connection is closed. -/
def route
    (ops : LedgerOps Ledger)
    (state : OuterCredits Ledger)
    (record : OuterRecord) : OuterCredits Ledger :=
  let routed :=
    match record with
    | .credit objectId body => state.routeCredit ops objectId body
    | .sourceLost objectId body => state.routeSourceLost ops objectId body
    | .reply reply => (state.noteReply reply).storeReply reply
    | .other taken => if taken then state else { state with closed := true }
  { routed with readerGone := routed.closed }

/-! ## The worker -/

/-- `write_record`, with the next request ID; nothing where it refuses. -/
def ask (state : OuterCredits Ledger) : Option (OuterCredits Ledger) :=
  if maxPendingControlReplies ≤ state.pendingRequests.length then none
  else
    some { state with
      nextRequest := state.nextRequest + 1
      pendingRequests := (state.nextRequest + 1) :: state.pendingRequests }

def setStage
    (state : OuterCredits Ledger)
    (source : Nat)
    (stage : Stage) : OuterCredits Ledger :=
  { state with sources := state.sources.insert source stage }

/-- `create_sources` requests the creation of a source. -/
def create (state : OuterCredits Ledger) : Option (OuterCredits Ledger) :=
  state.ask.map fun asked =>
    { asked with nextUpstream := asked.nextUpstream + 1 }.setStage
      (asked.nextUpstream + 1) (.requested asked.nextRequest)

/-- What a turn of the loop of `wait_reply_on` ends with. -/
inductive Waited where
  | waits
  | failed
  | got (reply : ControlReply)

section

variable (state : OuterCredits Ledger)

/-- One turn of the loop of `wait_reply_on`. -/
def waitReply
    (request : Nat)
    (late : Bool) : OuterCredits Ledger × Waited :=
  match state.replies.find? request with
  | some reply =>
      ({ state with replies := state.replies.erase request }, .got reply)
  | none =>
      if state.closed then (state, .failed)
      else if late then
        ({ state with
            pendingRequests := state.pendingRequests.erase request
            abandonedRequests :=
              if state.abandonedRequests.length < maxPendingControlReplies then
                request :: state.abandonedRequests
              else state.abandonedRequests },
          .failed)
      else (state, .waits)

/-- How `wait_source_ready` judges the reply. -/
def readyStage (source : Nat) (reply : ControlReply) : Stage :=
  match reply.body with
  | .sourceReady (some ready) =>
      if reply.objectId = source ∧ ready.sourceId = source then .ready ready
      else .failed
  | _ => .failed

/-- A turn of `wait_source_ready`. -/
def waitSourceReady
    (source request : Nat)
    (late : Bool) : OuterCredits Ledger :=
  match state.waitReply request late with
  | (after, .waits) => after
  | (after, .failed) => after.setStage source .failed
  | (after, .got reply) => after.setStage source (readyStage source reply)

/-- `create_sources` with a reply: `register_source` replaces a ledger that is
there and refuses then. -/
def registerSource
    (ops : LedgerOps Ledger)
    (state : OuterCredits Ledger)
    (source : Nat)
    (ready : SourceReady) : OuterCredits Ledger :=
  if ready.mediaConnectionRequired then
    { state with
      credits := state.credits.insert source (ops.new ready.credits) }.setStage
        source
        (if (state.credits.find? source).isSome then .refused
          else .live (some ready.credits) .none)
  else state.setStage source (.live none .none)

/-- `reconcile` requests the destruction of a source. -/
def destroy
    (source : Nat)
    (initial : Option Credits) : Option (OuterCredits Ledger) :=
  state.ask.map fun asked =>
    asked.setStage source (.live initial (.requested asked.nextRequest))

/-- A turn of `wait_for` with the request to destroy a source. -/
def waitDestroyed
    (source : Nat)
    (initial : Option Credits)
    (request : Nat)
    (late : Bool) : OuterCredits Ledger :=
  match state.waitReply request late with
  | (after, .got reply) =>
      if reply.objectId = source ∧ reply.body = .ok then
        after.setStage source (.live initial .acknowledged)
      else after
  | (after, _) => after

/-- `retire_source` -/
def retireSource
    (source : Nat) : OuterCredits Ledger :=
  { state with credits := state.credits.erase source }.setStage source .retired

end

/-! ## The media writers -/

/-- One turn of the loop of `reserve_outer_credit`. -/
def reserveOuterCredit
    (ops : LedgerOps Ledger)
    (state : OuterCredits Ledger)
    (source bytes : Nat) : OuterCredits Ledger :=
  match state.credits.find? source with
  | none => state
  | some ledger =>
      if ops.isLost ledger then state
      else if ops.canConsume ledger bytes then
        match ops.consume ledger bytes with
        | none => state
        | some consumed =>
            { state with
              credits := state.credits.insert source consumed
              reserved := (source, ops.cost bytes) :: state.reserved }
      else state

end OuterCredits

/-! ## The system -/

inductive CreditEvent where
  /-- The reader gets a record and routes it. -/
  | read (record : OuterRecord)
  | readFails
  /-- Another thread closes the connection. -/
  | closes
  /-- The worker writes a request that is about no source's ledger. -/
  | ask
  /-- The worker waits for the reply to such a request. -/
  | waitOther (request : Nat) (late : Bool)
  | create
  | waitReady (source : Nat) (late : Bool)
  | register (source : Nat)
  | destroy (source : Nat)
  | waitDestroyed (source : Nat) (late : Bool)
  | retire (source : Nat)
  /-- The worker takes `source_losses`. -/
  | takeLosses
  /-- A media writer reserves credit for a record. -/
  | reserve (source bytes : Nat)
deriving DecidableEq

section Machine

variable {Ledger : Type*}

open OuterCredits

/-- One event; nothing where it cannot happen. -/
def creditStep
    (ops : LedgerOps Ledger)
    (state : OuterCredits Ledger) :
    CreditEvent → Option (OuterCredits Ledger)
  | .read record =>
      if state.readerGone then none else some (state.route ops record)
  | .readFails =>
      if state.readerGone then none
      else some { state with closed := true, readerGone := true }
  | .closes => some { state with closed := true }
  | .ask => state.ask
  | .waitOther request late => some (state.waitReply request late).1
  | .create => state.create
  | .waitReady source late =>
      match state.sources.find? source with
      | some (.requested request) =>
          some (state.waitSourceReady source request late)
      | _ => none
  | .register source =>
      match state.sources.find? source with
      | some (.ready ready) => some (state.registerSource ops source ready)
      | _ => none
  | .destroy source =>
      match state.sources.find? source with
      | some (.live initial .none) => state.destroy source initial
      | _ => none
  | .waitDestroyed source late =>
      match state.sources.find? source with
      | some (.live initial (.requested request)) =>
          some (state.waitDestroyed source initial request late)
      | _ => none
  | .retire source =>
      match state.sources.find? source with
      | some (.live _ .acknowledged) => some (state.retireSource source)
      | _ => none
  | .takeLosses => some { state with sourceLosses := [] }
  | .reserve source bytes => some (state.reserveOuterCredit ops source bytes)

def creditMachine
    (ops : LedgerOps Ledger) : Machine (OuterCredits Ledger) CreditEvent where
  initial state := ∃ request upstream, state = .start request upstream
  step before event after := creditStep ops before event = some after

end Machine

end Bridge
end Vvmux
