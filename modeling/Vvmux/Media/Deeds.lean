import Vvmux.Media.Changes

/-!
# Deeds

A deed is a change that only some steps make: a pane gets sizes, a transaction
is begun, an anchor registered, a source created or destroyed, a ticket
presented, a channel attached, a source flushed or ended.  A step does at most one deed,
and it does it first.
-/

namespace Vvmux
namespace Media

open Library

variable (protocol : Protocol)

inductive Deed where
  | insertMetrics (pane : PaneId)
  | beginTransaction (key : ObjectKey)
  | registerAnchor (producer : ProducerId) (anchor : Nat)
    (place : Int × Nat)
  | createSource (producer : ProducerId) (creation : SourceCreation)
    (token now : Nat)
  | destroySource (key : SourceKey)
  | presentTicket (token : Nat)
  | attachChannel (token : Nat) (ticket : Ticket)
  | flushSource (key : SourceKey) (epoch : Nat) (causation : Option Nat)
  | endSource (key : SourceKey) (epoch : Nat) (causation : Option Nat)
deriving DecidableEq

/-! ## The deed of a step -/

/-- The source a `CREATE_*` record asks for. -/
def ControlRecord.creation? (record : ControlRecord) : Option SourceCreation :=
  match record.body with
  | .createRaster (.ok (request, update)) =>
      some (request.creation record.objectId (.raster request.config)
        (some update))
  | .createImage (.ok (request, _)) =>
      some (request.creation record.objectId (.image request.config) none)
  | .createVideo (.ok request) =>
      some (request.creation record.objectId (.video request.config) none)
  | .createAudio (.ok request) =>
      some (request.creation record.objectId (.audio request.config) none)
  | _ => none

/-- The deed of a control record. -/
def ControlRecord.deed?
    (record : ControlRecord)
    (producer : ProducerId)
    (circumstance : Circumstance) : Option Deed :=
  match record.body with
  | .beginTxn (.ok envelope) =>
      envelope.transaction.map fun transaction =>
        .beginTransaction ⟨producer, transaction⟩
  | .destroySource (.ok (_, object)) =>
      some (.destroySource ⟨producer, object⟩)
  | _ =>
      record.creation?.map fun creation =>
        .createSource producer creation circumstance.token circumstance.now

/-- The deed of a control thread's task. -/
def Task.deed?
    (producer : ProducerId)
    (circumstance : Circumstance) :
    Task → Option Deed
  | .check [] record => record.deed? producer circumstance
  | .flush key epoch envelope =>
      some (.flushSource key epoch envelope.causation)
  | .applyEos key epoch envelope =>
      some (.endSource key epoch envelope.causation)
  | _ => none

/-- The deed of a step. -/
def Presenter.deed?
    (presenter : Presenter)
    (event : PresenterEvent) : Option Deed :=
  match event with
  | .updateMetrics pane _ _ _ _ => some (.insertMetrics pane)
  | .observeMarker pane marker line column =>
      (presenter.shared.markerProducer protocol pane marker).bind
        fun (producerId, producer) =>
          if producer.accepts marker then
            some (.registerAnchor producerId marker.anchorId (line, column))
          else none
  | .run thread circumstance _ =>
      match presenter.phase? thread with
      | some (.busy producer task) => task.deed? producer circumstance
      | _ => none
  | .presentTicket thread token =>
      match presenter.phase? thread with
      | some (.opening _) => some (.presentTicket token)
      | _ => none
  | .attach thread =>
      match presenter.phase? thread with
      | some (.ticketed token ticket _) => some (.attachChannel token ticket)
      | _ => none
  | .applyBarrier worker =>
      match presenter.workers[worker]? with
      | some ⟨barrier, .accepted⟩ =>
          some (.endSource barrier.source barrier.epoch barrier.causation)
      | _ => none
  | _ => none

/-- The steps that have a deed, and which. -/
inductive DeedOf
    (presenter : Presenter) :
    PresenterEvent → Deed → Prop
  | insertMetrics (pane : PaneId) (columns rows cellWidth cellHeight : Nat) :
      DeedOf presenter
        (.updateMetrics pane columns rows cellWidth cellHeight)
        (.insertMetrics pane)
  | registerAnchor (pane : PaneId) (marker : Marker) (line : Int)
      (column : Nat) (producerId : ProducerId) (producer : Producer) :
      presenter.shared.markerProducer protocol pane marker =
        some (producerId, producer) →
      producer.accepts marker = true →
      DeedOf presenter (.observeMarker pane marker line column)
        (.registerAnchor producerId marker.anchorId (line, column))
  | perform (thread : Nat) (circumstance : Circumstance) (writable : Bool)
      (producer : ProducerId) (record : ControlRecord) (deed : Deed) :
      presenter.phase? thread = some (.busy producer (.check [] record)) →
      record.deed? producer circumstance = some deed →
      DeedOf presenter (.run thread circumstance writable) deed
  | flush (thread : Nat) (circumstance : Circumstance) (writable : Bool)
      (producer : ProducerId) (key : SourceKey) (epoch : Nat)
      (envelope : Envelope) :
      presenter.phase? thread =
        some (.busy producer (.flush key epoch envelope)) →
      DeedOf presenter (.run thread circumstance writable)
        (.flushSource key epoch envelope.causation)
  | applyEos (thread : Nat) (circumstance : Circumstance) (writable : Bool)
      (producer : ProducerId) (key : SourceKey) (epoch : Nat)
      (envelope : Envelope) :
      presenter.phase? thread =
        some (.busy producer (.applyEos key epoch envelope)) →
      DeedOf presenter (.run thread circumstance writable)
        (.endSource key epoch envelope.causation)
  | presentTicket (thread token : Nat) (kind : ConnectionKind) :
      presenter.phase? thread = some (.opening kind) →
      DeedOf presenter (.presentTicket thread token) (.presentTicket token)
  | attach (thread token : Nat) (ticket : Ticket) (pane : PaneId) :
      presenter.phase? thread = some (.ticketed token ticket pane) →
      DeedOf presenter (.attach thread) (.attachChannel token ticket)
  | applyBarrier (worker : Nat) (barrier : BarrierWorker) :
      presenter.workers[worker]? = some ⟨barrier, .accepted⟩ →
      DeedOf presenter (.applyBarrier worker)
        (.endSource barrier.source barrier.epoch barrier.causation)

variable {deed : Deed}

/-- The deed of a step, by the step. -/
theorem deedOf
    {presenter : Presenter}
    {event : PresenterEvent}
    (isDeed : presenter.deed? protocol event = some deed) :
    DeedOf protocol presenter event deed := by
  unfold Presenter.deed? at isDeed
  split at isDeed
  · cases isDeed
    exact .insertMetrics _ _ _ _ _
  · obtain ⟨⟨producerId, producer⟩, owns, registers⟩ :=
      Option.bind_eq_some_iff.mp isDeed
    simp only at registers
    split at registers
    · rename_i accepted
      cases registers
      exact .registerAnchor _ _ _ _ _ _ owns accepted
    · cases registers
  · split at isDeed
    · rename_i producer task busy
      unfold Task.deed? at isDeed
      split at isDeed
      · exact .perform _ _ _ _ _ _ busy isDeed
      · cases isDeed
        exact .flush _ _ _ _ _ _ _ busy
      · cases isDeed
        exact .applyEos _ _ _ _ _ _ _ busy
      · cases isDeed
    · cases isDeed
  · split at isDeed
    · rename_i kind opening
      cases isDeed
      exact .presentTicket _ _ _ opening
    · cases isDeed
  · split at isDeed
    · rename_i token ticket pane ticketed
      cases isDeed
      exact .attach _ _ _ _ ticketed
    · cases isDeed
  · split at isDeed
    · rename_i barrier accepted
      cases isDeed
      exact .applyBarrier _ _ accepted
    · cases isDeed
  · cases isDeed

/-- The records that have a deed, and which. -/
inductive RecordDeed
    (record : ControlRecord)
    (producer : ProducerId)
    (circumstance : Circumstance) :
    Deed → Prop
  | beginTransaction (envelope : Envelope) (transaction : Nat) :
      record.body = .beginTxn (.ok envelope) →
      envelope.transaction = some transaction →
      RecordDeed record producer circumstance
        (.beginTransaction ⟨producer, transaction⟩)
  | destroySource (envelope : Envelope) (object : Nat) :
      record.body = .destroySource (.ok (envelope, object)) →
      RecordDeed record producer circumstance
        (.destroySource ⟨producer, object⟩)
  | createSource (creation : SourceCreation) :
      record.creation? = some creation →
      RecordDeed record producer circumstance
        (.createSource producer creation circumstance.token circumstance.now)

theorem recordDeed
    {record : ControlRecord}
    {producer : ProducerId}
    {circumstance : Circumstance}
    (isDeed : record.deed? producer circumstance = some deed) :
    RecordDeed record producer circumstance deed := by
  unfold ControlRecord.deed? at isDeed
  split at isDeed
  · rename_i envelope isBegin
    obtain ⟨transaction, named, rfl⟩ := Option.map_eq_some_iff.mp isDeed
    exact .beginTransaction envelope transaction isBegin named
  · rename_i envelope object isDestroy
    cases isDeed
    exact .destroySource envelope object isDestroy
  · obtain ⟨creation, creates, rfl⟩ := Option.map_eq_some_iff.mp isDeed
    exact .createSource creation creates

/-! ## What a deed does -/

/-- A source as attaching a channel leaves it, but for its state and
milestones. -/
def Source.attach (source : Source) (token : Nat) : Source :=
  { source with
    attachmentGeneration := source.attachmentGeneration + 1
    attachmentState := .attached
    milestones := .mediaAttached :: source.milestones
    attachedWith := token :: source.attachedWith }

/-- The key of the source a creation is for. -/
def SourceCreation.key
    (creation : SourceCreation)
    (producer : ProducerId) : SourceKey :=
  ⟨producer, creation.descriptor.sourceId⟩

/-- What a deed does to the state, and what is checked for it. -/
inductive Performs : State → Deed → State → Prop
  | insertMetrics (state : State) (pane : PaneId) (display : Display) :
      Performs state (.insertMetrics pane)
        { state with metrics := state.metrics.insert pane display }
  | beginTransaction (state : State) (key : ObjectKey) :
      Performs state (.beginTransaction key)
        { state with transactions := state.transactions.insert key [] }
  | registerAnchor (state : State) (producerId : ProducerId)
      (producer : Producer) (marker : Marker) (place : Int × Nat) :
      state.producers.find? producerId = some producer →
      producer.accepts marker = true →
      Performs state (.registerAnchor producerId marker.anchorId place)
        (state.registerAnchor producerId marker.anchorId place)
  | createSource (state : State) (producerId : ProducerId)
      (creation : SourceCreation) (maximum : UInt32) (token now : Nat) :
      creation.validate protocol = .ok maximum →
      state.sources.size < state.config.maxSources →
      maximum.toNat ≤ state.config.aggregateRetainedBytes →
      creation.key producerId ∉ state.sources →
      Performs state (.createSource producerId creation token now)
        (state.enterSource (creation.key producerId)
          (creation.source producerId maximum state.created now) token
          { source := creation.key producerId
            kind := creation.descriptor.kind
            maximumBody := maximum.toNat
            serial := state.created })
  | destroySource (state : State) (key : SourceKey) (source : Source) :
      state.sources.find? key = some source →
      Performs state (.destroySource key)
        { state.dropSource key source with
          nodes := state.nodes.filter fun _ node => node.source != key }
  | presentTicket (state : State) (token : Nat) (ticket : Ticket) :
      state.tickets.find? token = some ticket →
      Performs state (.presentTicket token)
        { state with tickets := state.tickets.erase token }
  | attachChannel (state : State) (token : Nat) (ticket : Ticket)
      (source : Source) :
      state.sources.find? ticket.source = some source →
      Performs state (.attachChannel token ticket)
        (state.updateSource ticket.source fun source => source.attach token)
  | flushSource (state : State) (key : SourceKey) (source : Source)
      (epoch : Nat) (causation : Option Nat) :
      state.sources.find? key = some source →
      Performs state (.flushSource key epoch causation)
        (state.updateSource key fun source => source.flushed epoch causation)
  | endSource (state : State) (key : SourceKey) (source : Source)
      (epoch : Nat) (causation : Option Nat) :
      state.sources.find? key = some source →
      Performs state (.endSource key epoch causation)
        (state.updateSource key fun source => source.finished epoch causation)

/-- A state is reached by elementary changes, or by a deed and then
elementary changes. -/
def Does (deed : Option Deed) (before after : State) : Prop :=
  Changes before after ∨
    ∃ done middle, deed = some done ∧ Performs protocol before done middle ∧
      Changes middle after

theorem Does.behind
    {deed : Option Deed}
    {first second third : State}
    (does : Does protocol deed first second)
    (changes : Changes second third) : Does protocol deed first third := by
  rcases does with plain | ⟨done, middle, isDeed, performs, rest⟩
  · exact .inl (plain.trans changes)
  · exact .inr ⟨done, middle, isDeed, performs, rest.trans changes⟩

theorem Performs.does
    {before middle after : State}
    (performs : Performs protocol before deed middle)
    (changes : Changes middle after) : Does protocol (some deed) before after :=
  .inr ⟨deed, middle, rfl, performs, changes⟩

end Media
end Vvmux
