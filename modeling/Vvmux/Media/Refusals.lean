import Vvmux.Media.Steps

/-!
# Refused control records

A control record is handled in one lock or in several, and other threads may
run between two of them.  What a record that ends in an error has done under
its locks is compared with the state that each lock found: the scene nodes,
the sources, the registered waits and the open transactions should be as
before, except that `COMMIT_TXN` consumes the transaction it names.

Some records change the state and are refused afterwards.  `Lock.Harmless` is
the exact condition, for one lock, under which nothing has changed.
-/

namespace Vvmux
namespace Media

open Library

variable (protocol : Protocol)

/-! ## The locks of a record -/

/-- One lock of a control thread, with the state it finds. -/
structure Lock where
  task : Task
  before : State
  circumstance : Circumstance
  /-- Whether the connection still takes records. -/
  writable : Bool

/-- What a thread does while it holds the lock. -/
def Lock.result (producer : ProducerId) (lock : Lock) : State × Progress :=
  runTask protocol ⟨producer, rootContext producer, lock.writable⟩ lock.before
    lock.circumstance lock.task

/-- A task is finished in a list of locks; what other threads do between two
of them is left open. -/
inductive Finishes
    (producer : ProducerId) :
    Task → List Lock → Except String Bool → Prop
  | done {lock : Lock} {result : Except String Bool} :
      (lock.result protocol producer).2 = .done result →
      Finishes producer lock.task [lock] result
  | timer {lock : Lock} {request : Nat} :
      (lock.result protocol producer).2 = .timer request →
      Finishes producer lock.task [lock] (.ok true)
  | worker {lock : Lock} {barrier : BarrierWorker} :
      (lock.result protocol producer).2 = .worker barrier →
      Finishes producer lock.task [lock] (.ok true)
  | next {lock : Lock} {task : Task} {rest : List Lock}
      {result : Except String Bool} :
      (lock.result protocol producer).2 = .next task →
      Finishes producer task rest result →
      Finishes producer lock.task (lock :: rest) result

/-- `dispatch_control` of a record, in a list of locks. -/
def Dispatches
    (producer : ProducerId)
    (record : ControlRecord)
    (locks : List Lock)
    (result : Except String Bool) : Prop :=
  match requirements record with
  | .error text => locks = [] ∧ result = .error text
  | .ok features =>
      Finishes protocol producer (.check features record) locks result

/-! ## What should be as before -/

/-- The same source; its milestones are a set, and what is only history is
left aside. -/
structure Source.Alike (before after : Source) : Prop where
  milestones : ∀ milestone,
    milestone ∈ after.milestones ↔ milestone ∈ before.milestones
  others : after =
    { before with
      milestones := after.milestones
      flushEpoch := after.flushEpoch
      attachedWith := after.attachedWith
      serial := after.serial }

/-- The producers have the same waits. -/
def SameWaits (before after : State) : Prop :=
  before.producers.Related
    (fun before after => ∀ request,
      after.waits.find? request = before.waits.find? request)
    after.producers

/-- Nodes, sources, waits and transactions are as before, but for one
transaction that may be consumed. -/
structure Untouched
    (consumed : Option ObjectKey)
    (before after : State) : Prop where
  nodes : after.nodes = before.nodes
  sources : before.sources.Related Source.Alike after.sources
  waits : SameWaits before after
  transactions : ∀ key, consumed ≠ some key →
    after.transactions.find? key = before.transactions.find? key

/-- The transaction of a record, as a key. -/
def Envelope.transactionKey
    (envelope : Envelope)
    (producer : ProducerId) : Option ObjectKey :=
  envelope.transaction.map fun transaction => ⟨producer, transaction⟩

/-- The transaction that a record consumes. -/
def ControlBody.consumed
    (producer : ProducerId) :
    ControlBody → Option ObjectKey
  | .commitTxn (.ok envelope) => envelope.transactionKey producer
  | _ => none

/-- The transaction that the record of a task consumes. -/
def Task.consumed
    (producer : ProducerId) :
    Task → Option ObjectKey
  | .check _ record => record.body.consumed producer
  | _ => none

theorem Source.Alike.refl (source : Source) : source.Alike source :=
  ⟨fun _ => Iff.rfl, rfl⟩

theorem Source.Alike.symm
    {before after : Source}
    (alike : before.Alike after) : after.Alike before where
  milestones milestone := (alike.milestones milestone).symm
  others := by
    rw [alike.others]

theorem Source.Alike.trans
    {first second third : Source}
    (before : first.Alike second)
    (after : second.Alike third) : first.Alike third where
  milestones milestone :=
    (after.milestones milestone).trans (before.milestones milestone)
  others := by
    rw [after.others, before.others]

/-- A field that is compared is the same. -/
theorem Source.Alike.field
    {Value : Type}
    {before after : Source}
    (alike : before.Alike after)
    (field : Source → Value)
    (compared : ∀ (source : Source) milestones flushEpoch attachedWith serial,
      field { source with milestones, flushEpoch, attachedWith, serial } =
        field source) :
    field after = field before := by
  rw [alike.others]
  exact compared before _ _ _ _

theorem SameWaits.refl (state : State) : SameWaits state state := by
  apply OrderedMap.Related.refl
  intro producer request
  rfl

variable {first second third : State}

theorem SameWaits.trans
    (before : SameWaits first second)
    (after : SameWaits second third) : SameWaits first third :=
  OrderedMap.Related.trans
    (fun _ _ _ first second request =>
      (second request).trans (first request))
    before after

variable {before after : State} {producer : ProducerId} {lock : Lock}
  {task : Task}

theorem SameWaits.symm
    (same : SameWaits before after) : SameWaits after before :=
  OrderedMap.Related.symm (fun _ _ same request => (same request).symm) same

namespace Untouched

theorem symm
    {consumed : Option ObjectKey}
    {before after : State}
    (untouched : Untouched consumed before after) :
    Untouched consumed after before where
  nodes := untouched.nodes.symm
  sources := OrderedMap.Related.symm (fun _ _ => Source.Alike.symm)
    untouched.sources
  waits := untouched.waits.symm
  transactions key other := (untouched.transactions key other).symm

theorem trans
    {consumed : Option ObjectKey}
    (before : Untouched consumed first second)
    (after : Untouched consumed second third) :
    Untouched consumed first third where
  nodes := after.nodes.trans before.nodes
  sources := OrderedMap.Related.trans (fun _ _ _ => Source.Alike.trans)
    before.sources after.sources
  waits := before.waits.trans after.waits
  transactions key other :=
    (after.transactions key other).trans (before.transactions key other)

theorem refl
    (consumed : Option ObjectKey)
    (state : State) : Untouched consumed state state where
  nodes := rfl
  sources := .refl Source.Alike.refl _
  waits := .refl state
  transactions _ _ := rfl

/-- A state that differs only in what is not compared. -/
theorem of_same
    {before after : State}
    (consumed : Option ObjectKey)
    (nodes : after.nodes = before.nodes)
    (sources : after.sources = before.sources)
    (waits : SameWaits before after)
    (transactions : after.transactions = before.transactions) :
    Untouched consumed before after where
  nodes := nodes
  sources := sources ▸ .refl Source.Alike.refl _
  waits := waits
  transactions _ _ := by rw [transactions]

/-- A source that is there before and after is the same source. -/
theorem source
    {consumed : Option ObjectKey}
    {before after : State}
    (untouched : Untouched consumed before after)
    {key : SourceKey}
    {first second : Source}
    (found : before.sources.find? key = some first)
    (still : after.sources.find? key = some second) : first.Alike second := by
  obtain ⟨other, there, alike⟩ := untouched.sources.exists_after found
  rw [still] at there
  cases there
  exact alike

end Untouched

/-! ## Notifications and waits -/

theorem sameWaits_updateProducer
    (state : State)
    (producerId : ProducerId)
    (change : Producer → Producer)
    (same : ∀ producer, state.producers.find? producerId = some producer →
      (change producer).waits = producer.waits) :
    SameWaits state (state.updateProducer producerId change) := by
  apply OrderedMap.related_modify
  · intro producer request
    rfl
  · intro producer found request
    rw [same producer found]

theorem sameWaits_offer
    (state : State)
    (producerId : ProducerId)
    (sequence : Nat)
    (event : Reply)
    (emission : Bool → Emission)
    {lost : Producer → Producer}
    (same : ∀ producer, (lost producer).waits = producer.waits) :
    SameWaits state
      (offer protocol state producerId sequence event emission lost) := by
  unfold offer
  split
  · exact sameWaits_updateProducer state producerId _ fun _ _ => rfl
  · apply sameWaits_updateProducer
    intro producer _
    exact same _

theorem waits_numberSource
    (producer : Producer)
    (key : SourceKey)
    (revision : Nat)
    (changed : List SourceChange) :
    (numberSource protocol producer key revision changed).1.waits =
      producer.waits := by
  unfold numberSource
  split
  · split <;> rfl
  · rfl

theorem waits_numberScene
    (producer : Producer)
    (revision : Nat)
    (reason : SceneReason) :
    (numberScene protocol producer revision reason).1.waits =
      producer.waits := by
  unfold numberScene
  split
  · split <;> rfl
  · rfl

/-- A scene revision settles no wait. -/
theorem sameWaits_advanceScene
    (state : State)
    (producerId : ProducerId)
    (reason : SceneReason) :
    SameWaits state (advanceScene protocol state producerId reason).1 := by
  unfold advanceScene
  split
  · exact SameWaits.refl state
  · rename_i producer found
    split
    · exact SameWaits.refl state
    · rename_i revision advanced
      have updated : SameWaits state (state.updateProducer producerId fun _ =>
          (numberScene protocol { producer with sceneRevision := revision }
            revision reason).1) := by
        apply sameWaits_updateProducer
        intro other here
        rw [found] at here
        cases here
        exact waits_numberScene protocol _ revision reason
      dsimp only
      split
      · exact updated
      · refine updated.trans ?_
        unfold offerScene
        split
        · exact SameWaits.refl _
        · exact sameWaits_offer protocol _ _ _ _ _ fun _ => rfl

/-- The event behind `SOURCE_READY` settles no wait. -/
theorem sameWaits_announceSource
    (state : State)
    (key : SourceKey) :
    SameWaits state (announceSource protocol state key).1 := by
  unfold announceSource emitSourceEvent
  split
  · exact SameWaits.refl state
  · split
    · exact SameWaits.refl state
    · rename_i source _ _ producer found
      have updated : SameWaits state
          (state.updateProducer key.producer fun _ =>
            (numberSource protocol producer key source.revision
              [.lifecycle, .attachment, .descriptor]).1) := by
        apply sameWaits_updateProducer
        intro other here
        rw [found] at here
        cases here
        exact waits_numberSource protocol _ key _ _
      dsimp only
      split
      · exact updated
      · refine updated.trans ?_
        unfold offerSource
        split
        · exact SameWaits.refl _
        · exact sameWaits_offer protocol _ _ _ _ _ fun _ => rfl

/-- What a notification makes of the other tables. -/
theorem Notified.tables
    (notified : Notified before after) :
    after.nodes = before.nodes ∧ after.transactions = before.transactions := by
  rw [notified.others]
  exact ⟨rfl, rfl⟩

/-! ## Answers -/

/-- The tables that are compared are the same. -/
structure SameTables (before after : State) : Prop where
  nodes : after.nodes = before.nodes
  sources : after.sources = before.sources
  producers : after.producers = before.producers
  transactions : after.transactions = before.transactions

namespace SameTables

theorem refl (state : State) : SameTables state state :=
  ⟨rfl, rfl, rfl, rfl⟩

theorem untouched_iff
    {first second : State}
    (same : SameTables first second)
    (consumed : Option ObjectKey)
    (before : State) :
    Untouched consumed before second ↔ Untouched consumed before first := by
  constructor
  · rintro ⟨nodes, sources, waits, transactions⟩
    refine ⟨same.nodes.symm.trans nodes, same.sources ▸ sources, ?_, ?_⟩
    · unfold SameWaits at waits ⊢
      rwa [same.producers] at waits
    · rwa [same.transactions] at transactions
  · rintro ⟨nodes, sources, waits, transactions⟩
    refine ⟨same.nodes.trans nodes, same.sources ▸ sources, ?_, ?_⟩
    · unfold SameWaits at waits ⊢
      rwa [same.producers]
    · rwa [same.transactions]

/-- The tables are as before. -/
theorem untouched
    {before after : State}
    (same : SameTables before after)
    (consumed : Option ObjectKey) : Untouched consumed before after :=
  (same.untouched_iff consumed before).mpr (Untouched.refl consumed before)

end SameTables

theorem sameTables_write
    (state : State)
    (producer : ProducerId)
    (reply : Reply) : SameTables state (state.write producer reply) :=
  ⟨rfl, rfl, rfl, rfl⟩

/-- An answer leaves the tables as they are. -/
theorem Answered.sameTables
    (answered : Answered before after) : SameTables before after := by
  rw [answered]
  exact ⟨rfl, rfl, rfl, rfl⟩

theorem sameTables_respond
    (session : Session)
    (state : State)
    (reply : Reply) : SameTables state (respond session state reply).1 :=
  (answered_respond session state reply).sameTables

theorem sameTables_respondTo
    (session : Session)
    (result : State × Except String Unit)
    (reply : Reply) : SameTables result.1 (respondTo session result reply).1 :=
  (answered_respondTo session result reply).sameTables

theorem sameTables_respondEncoded
    (session : Session)
    (state : State)
    (reply : Reply) :
    SameTables state (respondEncoded protocol session state reply).1 :=
  (answered_respondEncoded protocol session state reply).sameTables

section Queries

variable (session : Session) (state : State) (record : ControlRecord)

/-- An observation mask is not compared. -/
theorem untouched_setObservation
    (parsed : Except String (Envelope × List Observation))
    (consumed : Option ObjectKey) :
    Untouched consumed state
      (setObservation session state record parsed).1 := by
  unfold setObservation
  split
  · exact Untouched.refl consumed state
  · split
    · exact Untouched.refl consumed state
    · split
      · exact Untouched.refl consumed state
      · split
        · exact Untouched.refl consumed state
        · rw [(sameTables_respond session _ _).untouched_iff]
          refine Untouched.of_same consumed rfl rfl ?_ rfl
          exact sameWaits_updateProducer state _ _ fun _ _ => rfl

end Queries

/-! ## Transactions -/

/-- Another list of mutations under a key that is not consumed shows. -/
theorem Untouched.transaction
    (untouched : Untouched none before after)
    (key : ObjectKey) :
    after.transactions.find? key = before.transactions.find? key :=
  untouched.transactions key (by simp)

/-- A change of the transactions alone. -/
theorem untouched_transactions_iff
    (state : State)
    (transactions : OrderedMap ObjectKey (List Mutation)) :
    Untouched none state { state with transactions := transactions } ↔
      ∀ key, transactions.find? key = state.transactions.find? key := by
  constructor
  · intro untouched key
    exact untouched.transaction key
  · intro same
    exact ⟨rfl, OrderedMap.Related.refl Source.Alike.refl _,
      SameWaits.refl state, fun key _ => same key⟩

/-- `BEGIN_TXN` stores an empty transaction under its key. -/
theorem untouched_beginTxn_iff
    (session : Session)
    (state : State)
    (envelope : Envelope) :
    Untouched none state (beginTxn session state (.ok envelope)).1 ↔
      ∀ key ∈ envelope.transactionKey session.producer,
        state.transactions.find? key = some [] := by
  unfold beginTxn Envelope.transactionKey
  cases named : envelope.transaction with
  | none =>
      simp only [named, Option.map_none, Option.not_mem_none, false_implies,
        implies_true, iff_true]
      exact Untouched.refl none state
  | some transaction =>
      simp only [named, Option.map_some, Option.mem_some_iff, forall_eq']
      have begun : SameTables
          { state with
            transactions :=
              state.transactions.insert ⟨session.producer, transaction⟩ [] }
          (beginTxn session state (.ok envelope)).1 := by
        unfold beginTxn
        simp only [named]
        split
        · exact SameTables.refl _
        · exact sameTables_respond session _ _
      unfold beginTxn at begun
      simp only [named] at begun
      rw [begun.untouched_iff, untouched_transactions_iff,
        OrderedMap.find?_insert_same_iff]

theorem untouched_abortTxn_iff
    (session : Session)
    (state : State)
    (envelope : Envelope) :
    Untouched none state (abortTxn session state (.ok envelope)).1 ↔
      ∀ key ∈ envelope.transactionKey session.producer,
        state.transactions.find? key = none := by
  unfold abortTxn Envelope.transactionKey
  cases named : envelope.transaction with
  | none =>
      simp only [named, Option.map_none, Option.not_mem_none, false_implies,
        implies_true, iff_true]
      exact Untouched.refl none state
  | some transaction =>
      simp only [named, Option.map_some, Option.mem_some_iff, forall_eq']
      rw [(sameTables_respond session _ _).untouched_iff,
        untouched_transactions_iff, OrderedMap.find?_erase_same_iff]

/-- A mutation shows in an open transaction. -/
theorem untouched_bufferMutation_iff
    (state : State)
    (key : ObjectKey)
    (mutation : Mutation) :
    Untouched none state (state.bufferMutation key mutation) ↔
      key ∉ state.transactions := by
  unfold State.bufferMutation
  rw [untouched_transactions_iff, OrderedMap.find?_modify_same_iff,
    ← OrderedMap.find?_eq_none_iff]
  constructor
  · intro unchanged
    cases stored : state.transactions.find? key with
    | none => rfl
    | some mutations =>
        have longer := congrArg List.length (unchanged mutations stored)
        rw [List.length_append, List.length_singleton] at longer
        omega
  · intro missing mutations stored
    rw [missing] at stored
    cases stored

/-- The checks of `CREATE_NODE` and `UPDATE_NODE` up to the open
transaction. -/
structure NodeAdmitted
    (session : Session)
    (state : State)
    (record : ControlRecord)
    (node : NodeConfig) : Prop where
  context : node.contextId = session.rootContext
  object : node.nodeId = record.objectId
  clip : ∃ runtime ∈ state.producers.find? session.producer,
    (node.clip.isSome && !runtime.features.contains .nodeClipRect) = false

theorem untouched_bufferNode_iff
    (session : Session)
    (state : State)
    (record : ControlRecord)
    (mutation : SceneNode → Mutation)
    (envelope : Envelope)
    (node : NodeConfig) :
    Untouched none state
        (bufferNode session state record mutation (.ok (envelope, node))).1 ↔
      (NodeAdmitted session state record node →
        ∀ key ∈ envelope.transactionKey session.producer,
          key ∉ state.transactions) := by
  unfold bufferNode Envelope.transactionKey
  dsimp only
  split
  · rename_i mismatch
    refine iff_of_true (Untouched.refl none state) ?_
    rintro ⟨context, object, -⟩
    exact absurd mismatch (by simp [context, object])
  · rename_i matching
    obtain ⟨context, object⟩ := not_or.mp matching
    rw [not_not] at context object
    cases named : envelope.transaction with
    | none =>
        refine iff_of_true (Untouched.refl none state) ?_
        intro _ key listed
        cases listed
    | some transaction =>
        dsimp only
        split
        · rename_i missing
          refine iff_of_true (Untouched.refl none state) ?_
          rintro ⟨-, -, runtime, found, -⟩
          rw [missing] at found
          cases found
        · rename_i runtime found
          split
          · rename_i clipped
            refine iff_of_true (Untouched.refl none state) ?_
            rintro ⟨-, -, other, there, clip⟩
            rw [found] at there
            cases there
            rw [clipped] at clip
            cases clip
          · rename_i allowed
            rw [Bool.not_eq_true] at allowed
            have admitted : NodeAdmitted session state record node :=
              ⟨context, object, runtime, found, allowed⟩
            simp only [Option.map_some, Option.mem_some_iff, forall_eq',
              admitted, true_implies]
            split
            · rw [(sameTables_respond session _ _).untouched_iff,
                untouched_bufferMutation_iff]
            · rename_i absent
              exact iff_of_true (Untouched.refl none state) absent

theorem untouched_deleteNode_iff
    (session : Session)
    (state : State)
    (record : ControlRecord)
    (envelope : Envelope)
    (node : Nat) :
    Untouched none state
        (deleteNode session state record (.ok (envelope, node))).1 ↔
      ∀ key ∈ envelope.transactionKey session.producer,
        key ∉ state.transactions := by
  unfold deleteNode Envelope.transactionKey
  cases named : envelope.transaction with
  | none =>
      refine iff_of_true ?_ ?_
      · simp only [named]
        exact Untouched.refl none state
      · intro key listed
        cases listed
  | some transaction =>
      simp only [named, Option.map_some, Option.mem_some_iff, forall_eq']
      split
      · rw [(sameTables_respond session _ _).untouched_iff,
          untouched_bufferMutation_iff]
      · rename_i absent
        exact iff_of_true (Untouched.refl none state) absent

/-! ## Revisions of a source -/

theorem sources_offer
    (state : State)
    (producerId : ProducerId)
    (sequence : Nat)
    (event : Reply)
    (emission : Bool → Emission)
    (lost : Producer → Producer) :
    (offer protocol state producerId sequence event emission lost).sources =
      state.sources := by
  unfold offer
  split <;> rfl

theorem sources_writes
    (state : State)
    (producerId : ProducerId)
    (replies : List Reply) :
    (replies.foldl (·.write producerId ·) state).sources = state.sources := by
  induction replies generalizing state with
  | nil => rfl
  | cons reply rest ih => exact ih _

/-- A notification rewrites no source. -/
theorem sources_notifySource
    (state : State)
    (key : SourceKey)
    (source : Source)
    (changed : List SourceChange) :
    (notifySource protocol state key source changed).1.sources =
      state.sources := by
  have sourceEvent : ∀ state event,
      (offerSource protocol state key source.revision changed event).sources =
        state.sources := by
    intro state event
    unfold offerSource
    split
    · rfl
    · exact sources_offer protocol _ _ _ _ _ _
  have playbackEvent : ∀ state event,
      (offerPlayback protocol state key source event).sources =
        state.sources := by
    intro state event
    unfold offerPlayback
    split
    · rfl
    · exact sources_offer protocol _ _ _ _ _ _
  unfold notifySource
  split
  · rfl
  · dsimp only
    split
    · rfl
    · split
      · rfl
      · dsimp only
        split
        · rw [sources_writes, playbackEvent, sourceEvent]
          rfl
        · rw [playbackEvent, sourceEvent]
          rfl

/-- A source that is rewritten and announced is as before exactly when its
revision is exhausted and the rewriting changes nothing. -/
theorem untouched_advanceSource_iff
    (advances : ∀ counter next, protocol.advance counter = some next →
      counter < next)
    {state : State}
    {key : SourceKey}
    {source : Source}
    (found : state.sources.find? key = some source)
    (rewrite : Source → Source)
    (revision : (rewrite source).revision = source.revision)
    (changed : List SourceChange) :
    Untouched none state
        (advanceSource protocol (state.updateSource key rewrite) key
          changed).1 ↔
      protocol.advance source.revision = none ∧
        source.Alike (rewrite source) := by
  have rewritten : (state.updateSource key rewrite).sources.find? key =
      some (rewrite source) := by
    unfold State.updateSource
    rw [OrderedMap.find?_modify, if_pos rfl, found]
    rfl
  unfold advanceSource
  rw [rewritten]
  dsimp only
  rw [revision]
  cases advanced : protocol.advance source.revision with
  | none =>
      dsimp only
      constructor
      · intro untouched
        exact ⟨rfl, untouched.source found rewritten⟩
      · rintro ⟨-, alike⟩
        refine ⟨rfl, ?_, SameWaits.refl state, fun _ _ => rfl⟩
        apply OrderedMap.related_modify Source.Alike.refl
        intro other there
        rw [found] at there
        cases there
        exact alike
  | some next =>
      refine iff_of_false ?_ ?_
      · intro untouched
        have still : (notifySource protocol
            ((state.updateSource key rewrite).updateSource key fun source =>
              { source with revision := next })
            key { rewrite source with revision := next }
            changed).1.sources.find? key =
              some { rewrite source with revision := next } := by
          rw [sources_notifySource]
          exact (OrderedMap.find?_modify _ _ _ _).trans
            (by rw [if_pos rfl, rewritten]; rfl)
        have alike := untouched.source found still
        have same : next = source.revision :=
          congrArg Source.revision alike.others
        have further := advances _ _ advanced
        omega
      · rintro ⟨exhausted, -⟩
        cases exhausted

/-- A rewriting that changes something shows, whether it can be announced or
not. -/
theorem not_untouched_of_rewrite
    (advances : ∀ counter next, protocol.advance counter = some next →
      counter < next)
    {state after : State}
    {key : SourceKey}
    {source : Source}
    (found : state.sources.find? key = some source)
    (rewrite : Source → Source)
    (changed : List SourceChange)
    (revision : (rewrite source).revision = source.revision)
    (differs : ¬ source.Alike (rewrite source))
    (same : SameTables
      (advanceSource protocol (state.updateSource key rewrite) key changed).1
      after) :
    ¬ Untouched none state after := by
  rw [same.untouched_iff,
    untouched_advanceSource_iff protocol advances found rewrite revision]
  exact fun untouched => differs untouched.2

theorem SameTables.trans
    (before : SameTables first second)
    (after : SameTables second third) : SameTables first third where
  nodes := after.nodes.trans before.nodes
  sources := after.sources.trans before.sources
  producers := after.producers.trans before.producers
  transactions := after.transactions.trans before.transactions

theorem sameTables_advanceProjection
    (state : State) : SameTables state (advanceProjection state) :=
  ⟨rfl, rfl, rfl, rfl⟩

variable (source : Source)

/-- What a playback control sets. -/
theorem controlled_fields
    (play : Option PlayRequest)
    (changed : Bool)
    (causation : Option Nat)
    (now : Nat) :
    (source.controlled play changed causation now).revision =
        source.revision ∧
      (source.controlled play changed causation now).playing = play.isSome ∧
      ∀ request ∈ play,
        (source.controlled play changed causation now).playRequest =
          request := by
  cases play with
  | none => exact ⟨rfl, rfl, fun _ impossible => by cases impossible⟩
  | some request =>
      simp only [Option.mem_some_iff, forall_eq', Source.controlled]
      split
      · exact ⟨rfl, rfl, rfl⟩
      · exact ⟨rfl, rfl, rfl⟩

/-- A playback control that changes the playback shows. -/
theorem not_alike_of_controlled
    {source after : Source}
    {play : Option PlayRequest}
    (changed : (source.playing != play.isSome ||
      play.any fun request => request != source.playRequest) = true)
    (playing : after.playing = play.isSome)
    (asked : ∀ request ∈ play, after.playRequest = request) :
    ¬ source.Alike after := by
  intro alike
  have samePlaying := alike.field Source.playing fun _ _ _ _ _ => rfl
  have sameRequest := alike.field Source.playRequest fun _ _ _ _ _ => rfl
  rw [← samePlaying, playing, bne_self_eq_false, Bool.false_or] at changed
  obtain ⟨request, there, other⟩ := (Option.any_eq_true _ _).mp changed
  rw [← sameRequest, asked request there, bne_self_eq_false] at other
  cases other

theorem updateSource_updateSource
    (state : State)
    (key : SourceKey)
    (first second : Source → Source) :
    (state.updateSource key first).updateSource key second =
      state.updateSource key fun source => second (first source) := by
  unfold State.updateSource
  dsimp only
  rw [OrderedMap.modify_modify]

/-- What follows a notification of a source. -/
def concluded (told : State × Except String Nat) : State × Except String Unit :=
  match told.2 with
  | .error text => (told.1, .error text)
  | .ok _ => (advanceProjection told.1, .ok ())

theorem sameTables_concluded
    (told : State × Except String Nat) :
    SameTables told.1 (concluded told).1 := by
  unfold concluded
  split
  · exact SameTables.refl _
  · exact sameTables_advanceProjection _

theorem finished_revision
    (epoch : Nat)
    (causation : Option Nat) :
    (source.finished epoch causation).revision = source.revision := by
  unfold Source.finished
  dsimp only
  split <;> rfl

section Controls

variable (advances : ∀ counter next, protocol.advance counter = some next →
  counter < next)
variable (session : Session) (state : State) (envelope : Envelope)

include advances

theorem untouched_setSourcePolicy_iff
    (object requested : Nat) :
    Untouched none state
        (setSourcePolicy protocol session state
          (.ok (envelope, object, requested))).1 ↔
      ∀ source ∈ state.sources.find? ⟨session.producer, object⟩,
        ∀ tightened, tightenedCapturePolicy protocol source.capturePolicy
          requested ≠ .ok (some tightened) := by
  unfold setSourcePolicy
  dsimp only
  cases found : state.sources.find? ⟨session.producer, object⟩ with
  | none =>
      refine iff_of_true ((sameTables_respond session _ _).untouched none) ?_
      intro source there
      cases there
  | some source =>
      simp only [Option.mem_some_iff, forall_eq']
      cases outcome : tightenedCapturePolicy protocol source.capturePolicy
          requested with
      | error text =>
          refine iff_of_true
            ((sameTables_respond session _ _).untouched none) ?_
          intro tightened known
          cases known
      | ok tightening =>
          cases tightening with
          | none =>
              refine iff_of_true
                ((sameTables_respond session _ _).untouched none) ?_
              intro tightened known
              cases known
          | some tightened =>
              refine iff_of_false ?_ fun never => never tightened rfl
              have further : requested ≠ source.capturePolicy ∧
                  tightened = requested := by
                unfold tightenedCapturePolicy at outcome
                split at outcome
                · cases outcome
                · split at outcome
                  · cases outcome
                  · rw [Except.ok.injEq] at outcome
                    split at outcome
                    · cases outcome
                    · rename_i other
                      exact ⟨other, (Option.some.inj outcome).symm⟩
              obtain ⟨other, rfl⟩ := further
              refine not_untouched_of_rewrite protocol advances found
                (fun source => { source with capturePolicy := tightened })
                [.capturePolicy] rfl ?_ ?_
              · exact fun alike =>
                  other (congrArg Source.capturePolicy alike.others)
              · dsimp only
                split
                · exact SameTables.refl _
                · exact (sameTables_advanceProjection _).trans
                    (sameTables_respond session _ _)

theorem untouched_updateSourceDescriptor_iff
    (object : Nat)
    (descriptor : SemanticDescriptor) :
    Untouched none state
        (updateSourceDescriptor protocol session state
          (.ok (envelope, object, descriptor))).1 ↔
      ∀ source ∈ state.sources.find? ⟨session.producer, object⟩,
        descriptor.contentRevision ≤ source.semanticDescriptor.elim 0
          SemanticDescriptor.contentRevision := by
  unfold updateSourceDescriptor
  dsimp only
  cases found : state.sources.find? ⟨session.producer, object⟩ with
  | none =>
      refine iff_of_true ((sameTables_respond session _ _).untouched none) ?_
      intro source there
      cases there
  | some source =>
      simp only [Option.mem_some_iff, forall_eq']
      split
      · rename_i old
        exact iff_of_true ((sameTables_respond session _ _).untouched none) old
      · rename_i newer
        refine iff_of_false ?_ newer
        refine not_untouched_of_rewrite protocol advances found
          (fun source => { source with semanticDescriptor := some descriptor })
          [.descriptor] rfl ?_ ?_
        · intro alike
          have same : some descriptor = source.semanticDescriptor :=
            congrArg Source.semanticDescriptor alike.others
          rw [← same] at newer
          exact newer le_rfl
        · split
          · exact SameTables.refl _
          · exact (sameTables_advanceProjection _).trans
              (sameTables_respond session _ _)

/-- The source of a playback control is as before: it takes no such control,
or it goes on as it was. -/
def PlaybackRests
    (state : State)
    (key : SourceKey)
    (play : Option PlayRequest)
    (causation : Option Nat)
    (now : Nat) : Prop :=
  ∀ source ∈ state.sources.find? key, source.descriptor.isTimed = true →
    (source.playing != play.isSome ||
      play.any fun request => request != source.playRequest) = false ∧
    source.Alike (source.controlled play false causation now)

variable (key : SourceKey)

theorem untouched_setPlayback_iff
    (play : Option PlayRequest)
    (causation : Option Nat)
    (now : Nat) :
    Untouched none state
        (setPlayback protocol state key play causation now).1 ↔
      PlaybackRests state key play causation now := by
  unfold setPlayback PlaybackRests
  cases found : state.sources.find? key with
  | none =>
      refine iff_of_true (Untouched.refl none state) ?_
      intro source there
      cases there
  | some source =>
      simp only [Option.mem_some_iff, forall_eq']
      cases timed : source.descriptor.isTimed with
      | false =>
          refine iff_of_true (Untouched.refl none state) ?_
          intro impossible
          cases impossible
      | true =>
          simp only [Bool.not_true, Bool.false_eq_true, if_false, true_implies]
          cases changed : (source.playing != play.isSome ||
              play.any fun request => request != source.playRequest) with
          | false =>
              simp only [Bool.false_eq_true, if_false, true_and]
              constructor
              · intro untouched
                apply untouched.source found
                unfold State.updateSource
                rw [OrderedMap.find?_modify, if_pos rfl, found]
                rfl
              · intro alike
                refine ⟨rfl, ?_, SameWaits.refl state, fun _ _ => rfl⟩
                apply OrderedMap.related_modify Source.Alike.refl
                intro other there
                rw [found] at there
                cases there
                exact alike
          | true =>
              simp only [if_true, Bool.true_eq_false, false_and, iff_false]
              obtain ⟨revision, playing, asked⟩ :=
                controlled_fields source play true causation now
              have shows : ∀ marked : State,
                  (∃ rewrite, marked = state.updateSource key rewrite ∧
                    (rewrite source).revision = source.revision ∧
                    (rewrite source).playing = play.isSome ∧
                    ∀ request ∈ play,
                      (rewrite source).playRequest = request) →
                  ¬ Untouched none state (concluded (advanceSource protocol
                    marked key [.playback, .milestones])).1 := by
                rintro marked ⟨rewrite, rfl, revision, playing, asked⟩
                exact not_untouched_of_rewrite protocol advances found rewrite
                  [.playback, .milestones] revision
                  (not_alike_of_controlled changed playing asked)
                  (sameTables_concluded _)
              apply shows
              split
              · exact ⟨_, updateSource_updateSource _ _ _ _, revision, playing,
                  asked⟩
              · exact ⟨_, rfl, revision, playing, asked⟩

/-- A source that a record rewrites is as before. -/
def RewriteRests
    (state : State)
    (key : SourceKey)
    (rewrite : Source → Source) : Prop :=
  ∀ source ∈ state.sources.find? key,
    protocol.advance source.revision = none ∧ source.Alike (rewrite source)

theorem untouched_flushSource_iff
    (epoch : Nat)
    (causation : Option Nat) :
    Untouched none state (flushSource protocol state key epoch causation).1 ↔
      RewriteRests protocol state key fun source =>
        source.flushed epoch causation := by
  unfold flushSource RewriteRests
  split
  · rename_i present
    obtain ⟨source, found⟩ := Option.isSome_iff_exists.mp
      ((OrderedMap.find?_isSome_iff _ _).mpr present)
    simp only [found, Option.mem_some_iff, forall_eq']
    exact untouched_advanceSource_iff protocol advances found _ rfl _
  · rename_i absent
    refine iff_of_true (Untouched.refl none state) ?_
    intro source there
    exact absurd (OrderedMap.mem_of_find?_eq_some there) absent

theorem untouched_applyInnerEos_iff
    (epoch : Nat)
    (causation : Option Nat) :
    Untouched none state
        (applyInnerEos protocol state key epoch causation).1 ↔
      RewriteRests protocol state key fun source =>
        source.finished epoch causation := by
  unfold applyInnerEos RewriteRests
  split
  · rename_i present
    obtain ⟨source, found⟩ := Option.isSome_iff_exists.mp
      ((OrderedMap.find?_isSome_iff _ _).mpr present)
    simp only [found, Option.mem_some_iff, forall_eq']
    change Untouched none state (concluded _).1 ↔ _
    rw [(sameTables_concluded _).untouched_iff]
    exact untouched_advanceSource_iff protocol advances found _
      (finished_revision source epoch causation) _
  · rename_i absent
    refine iff_of_true (Untouched.refl none state) ?_
    intro source there
    exact absurd (OrderedMap.mem_of_find?_eq_some there) absent

end Controls

/-! ## Waits -/

/-- A change of the waits of one producer. -/
theorem untouched_waits_iff
    (state : State)
    (producer : ProducerId)
    (change : OrderedMap Nat PendingSourceWait →
      OrderedMap Nat PendingSourceWait) :
    Untouched none state (state.updateProducer producer fun runtime =>
        { runtime with waits := change runtime.waits }) ↔
      ∀ runtime ∈ state.producers.find? producer, ∀ request,
        (change runtime.waits).find? request = runtime.waits.find? request := by
  constructor
  · rintro untouched runtime found
    obtain ⟨after, there, same⟩ := untouched.waits.exists_after found
    unfold State.updateProducer at there
    rw [OrderedMap.find?_modify, if_pos rfl, found] at there
    cases there
    exact same
  · intro same
    refine Untouched.of_same none rfl rfl ?_ rfl
    apply OrderedMap.related_modify
    · intro runtime request
      rfl
    · exact same

/-- The checks of `WAIT_SOURCE` up to the registration. -/
structure WaitAdmitted
    (session : Session)
    (state : State)
    (record : ControlRecord)
    (request : WaitRequest) : Prop where
  object : record.objectId = request.wait.sourceId
  timeout : request.timeoutUs ≤ maxWaitTimeoutUs
  source : ∃ source ∈
    state.sources.find? ⟨session.producer, request.wait.sourceId⟩,
    (request.wait.condition = .firstVisiblePresentation →
      state.isProjected ⟨session.producer, request.wait.sourceId⟩ = true) ∧
    evaluateWait source request.wait = none
  room : ∃ runtime ∈ state.producers.find? session.producer,
    runtime.waits.size < maxRegisteredWaits

section

variable (session : Session) (state : State)

/-- `registerWait` stores the wait before it looks whether its ID is taken. -/
theorem untouched_registerWait_iff
    (request : Nat)
    (wait : PendingSourceWait) :
    Untouched none state (registerWait session state request wait).1 ↔
      ∀ runtime ∈ state.producers.find? session.producer,
        runtime.waits.size < maxRegisteredWaits →
          runtime.waits.find? request = some wait := by
  unfold registerWait
  cases found : state.producers.find? session.producer with
  | none =>
      refine iff_of_true (Untouched.refl none state) ?_
      intro runtime there
      cases there
  | some runtime =>
      simp only [Option.mem_some_iff, forall_eq']
      split
      · rename_i full
        refine iff_of_true (Untouched.refl none state) ?_
        intro room
        omega
      · rename_i room
        have registered := untouched_waits_iff state session.producer
          fun waits => waits.insert request wait
        rw [found] at registered
        simp only [Option.mem_some_iff, forall_eq',
          OrderedMap.find?_insert_same_iff] at registered
        simp only [Nat.not_le.mp room, true_implies]
        split
        · exact registered
        · exact registered

theorem untouched_waitSource_iff
    (record : ControlRecord)
    (envelope : Envelope)
    (request : WaitRequest) :
    Untouched none state
        (waitSource protocol session state record
          (.ok (envelope, request))).1 ↔
      (WaitAdmitted session state record request →
        ∀ runtime ∈ state.producers.find? session.producer,
          runtime.waits.find? envelope.request = some request.wait) := by
  obtain ⟨wait, timeoutUs⟩ := request
  unfold waitSource
  dsimp only
  split
  · rename_i mismatch
    exact iff_of_true (Untouched.refl none state) fun admitted =>
      absurd admitted.object mismatch
  · rename_i object
    rw [not_not] at object
    split
    · rename_i late
      exact iff_of_true (Untouched.refl none state) fun admitted =>
        absurd admitted.timeout (Nat.not_le.mpr late)
    · rename_i timely
      cases found : state.sources.find? ⟨session.producer, wait.sourceId⟩ with
      | none =>
          refine iff_of_true ((sameTables_respond session _ _).untouched none) ?_
          intro admitted
          obtain ⟨source, there, -⟩ := admitted.source
          rw [found] at there
          cases there
      | some source =>
          dsimp only
          split
          · rename_i hidden
            refine iff_of_true
              ((sameTables_respond session _ _).untouched none) ?_
            intro admitted
            obtain ⟨other, there, visible, -⟩ := admitted.source
            exact absurd (visible hidden.1) hidden.2
          · rename_i visible
            cases met : evaluateWait source wait with
            | some observed =>
                refine iff_of_true ((sameTables_respondEncoded protocol session
                  _ _).untouched none) ?_
                intro admitted
                obtain ⟨other, there, -, unmet⟩ := admitted.source
                rw [found] at there
                cases there
                rw [met] at unmet
                cases unmet
            | none =>
                dsimp only
                rw [untouched_registerWait_iff]
                constructor
                · intro same admitted runtime there
                  obtain ⟨other, here, room⟩ := admitted.room
                  rw [there] at here
                  cases here
                  exact same runtime there room
                · intro same runtime there room
                  refine same ⟨object, Nat.not_lt.mp timely,
                    ⟨source, found, ?_, met⟩, runtime, there, room⟩ runtime
                    there
                  intro first
                  by_contra hidden
                  exact visible ⟨first, hidden⟩

/-- `CANCEL_WAIT` removes the wait before it answers. -/
theorem untouched_cancelWait_iff
    (record : ControlRecord)
    (envelope : Envelope)
    (request : Nat) :
    Untouched none state
        (cancelWait session state record (.ok (envelope, request))).1 ↔
      (record.objectId = 0 →
        ∀ runtime ∈ state.producers.find? session.producer,
          runtime.waits.find? request = none) := by
  have removed := untouched_waits_iff state session.producer fun waits =>
    waits.erase request
  simp only [OrderedMap.find?_erase_same_iff] at removed
  unfold cancelWait
  dsimp only
  split
  · rename_i objected
    exact iff_of_true (Untouched.refl none state) fun session =>
      absurd session objected
  · rename_i sessionLevel
    rw [not_not] at sessionLevel
    simp only [sessionLevel, true_implies]
    rw [← removed]
    split
    · exact (sameTables_respond session _ _).untouched_iff none state
    · split
      · rw [(sameTables_respond session _ _).untouched_iff]
        exact (sameTables_write _ _ _).untouched_iff none state
      · exact Iff.rfl

end

/-! ## Creation and removal of sources -/

/-- `create_source` refuses the creation. -/
def CreationRefused
    (state : State)
    (producer : ProducerId)
    (creation : SourceCreation) : Prop :=
  match creation.validate protocol with
  | .error _ => True
  | .ok maximum =>
      state.config.maxSources ≤ state.sources.size ∨
        state.config.aggregateRetainedBytes < maximum.toNat ∨
          ⟨producer, creation.descriptor.sourceId⟩ ∈ state.sources

/-- A source that was not there before shows. -/
theorem not_untouched_of_entered
    {consumed : Option ObjectKey}
    {before after : State}
    {key : SourceKey}
    {source : Source}
    (missing : key ∉ before.sources)
    (entered : after.sources.find? key = some source) :
    ¬ Untouched consumed before after := by
  intro untouched
  obtain ⟨old, there, -⟩ := untouched.sources.exists_before entered
  exact missing (OrderedMap.mem_of_find?_eq_some there)

theorem untouched_performCreate_iff
    (session : Session)
    (state : State)
    (creation : SourceCreation)
    (token now : Nat) :
    Untouched none state
        (performCreate protocol session state creation token now).1 ↔
      CreationRefused protocol state session.producer creation := by
  have tables : SameTables
      (createSource protocol state session.producer creation token now).1
      (performCreate protocol session state creation token now).1 := by
    unfold performCreate
    dsimp only
    split
    · exact SameTables.refl _
    · split
      · exact SameTables.refl _
      · split
        · exact sameTables_write _ _ _
        · exact SameTables.refl _
  rw [tables.untouched_iff]
  unfold createSource CreationRefused
  cases validated : creation.validate protocol with
  | error text => exact iff_of_true (Untouched.refl none state) trivial
  | ok maximum =>
      dsimp only
      split
      · rename_i full
        exact iff_of_true (Untouched.refl none state) (.inl full)
      · rename_i room
        split
        · rename_i tooLarge
          exact iff_of_true (Untouched.refl none state) (.inr (.inl tooLarge))
        · rename_i fits
          split
          · rename_i taken
            exact iff_of_true (Untouched.refl none state) (.inr (.inr taken))
          · rename_i fresh
            refine iff_of_false ?_ ?_
            · refine @not_untouched_of_entered none state _ _
                (creation.source session.producer maximum state.created now)
                fresh ?_
              unfold advanceProjection
              dsimp only
              split
              · exact OrderedMap.find?_insert_self state.sources _ _
              · exact OrderedMap.find?_insert_self state.sources _ _
            · rintro (full | tooLarge | taken)
              · exact room full
              · exact fits tooLarge
              · exact fresh taken

theorem sources_advanceScene
    (state : State)
    (producerId : ProducerId)
    (reason : SceneReason) :
    (advanceScene protocol state producerId reason).1.sources =
      state.sources := by
  unfold advanceScene
  split
  · rfl
  · split
    · rfl
    · dsimp only
      split
      · rfl
      · unfold offerScene
        split
        · rfl
        · exact sources_offer protocol _ _ _ _ _ _

theorem untouched_removeSource_iff
    (state : State)
    (key : SourceKey) :
    Untouched none state (removeSource protocol state key).1 ↔
      state.sources.find? key = none := by
  unfold removeSource
  cases found : state.sources.find? key with
  | none => exact iff_of_true (Untouched.refl none state) rfl
  | some source =>
      refine iff_of_false ?_ (by simp)
      intro untouched
      obtain ⟨still, there, -⟩ := untouched.sources.exists_after found
      have erased : (state.sources.erase key).find? key = none := by
        rw [OrderedMap.find?_erase, if_pos rfl]
      refine absurd there ?_
      dsimp only
      split
      · split
        · rw [sources_advanceScene]
          exact fun there => by cases erased.symm.trans there
        · unfold advanceProjection
          dsimp only
          rw [sources_advanceScene]
          exact fun there => by cases erased.symm.trans there
      · exact fun there => by cases erased.symm.trans there

/-! ## Commits -/

/-- A list of mutations leaves the scene as it is, if it applies at all. -/
def MutationsRest
    (state : State)
    (producer : ProducerId)
    (mutations : List Mutation) : Prop :=
  ∀ nodes, applyMutations protocol state producer state.nodes mutations =
      .ok nodes →
    validateSceneStructure protocol state nodes = .ok () →
      nodes.size ≤ state.config.maxNodes → nodes = state.nodes

variable {consumed : Option ObjectKey}

/-- A scene that is put in place shows unless it is the same. -/
theorem untouched_scene_iff
    {state taken : State}
    (reason : SceneReason)
    (nodes : Nodes)
    (untouched : Untouched consumed state taken) :
    Untouched consumed state
        (advanceScene protocol { taken with nodes := nodes } producer
          reason).1 ↔
      nodes = state.nodes := by
  have tables := (notified_advanceScene protocol
    { taken with nodes := nodes } producer reason).tables
  constructor
  · intro after
    exact tables.1.symm.trans after.nodes
  · rintro rfl
    refine ⟨tables.1, ?_, ?_, ?_⟩
    · rw [sources_advanceScene]
      exact untouched.sources
    · have told := sameWaits_advanceScene protocol
        { taken with nodes := state.nodes } producer reason
      exact untouched.waits.trans told
    · intro key other
      rw [tables.2]
      exact untouched.transactions key other

theorem untouched_applyTransaction_iff
    {state taken : State}
    (untouched : Untouched consumed state taken)
    (producer : ProducerId)
    (mutations : List Mutation) :
    Untouched consumed state
        (applyTransaction protocol taken producer mutations).1 ↔
      MutationsRest protocol taken producer mutations := by
  unfold applyTransaction MutationsRest
  cases applied : applyMutations protocol taken producer taken.nodes
      mutations with
  | error text =>
      refine iff_of_true untouched ?_
      intro nodes impossible
      cases impossible
  | ok nodes =>
      simp only [Except.ok.injEq, forall_eq']
      cases valid : validateSceneStructure protocol taken nodes with
      | error text =>
          refine iff_of_true untouched ?_
          intro impossible
          cases impossible
      | ok _ =>
          simp only [true_implies]
          split
          · rename_i tooMany
            refine iff_of_true untouched ?_
            intro fits
            omega
          · rename_i fits
            simp only [Nat.not_lt.mp fits, true_implies]
            rw [untouched.nodes, ← untouched_scene_iff protocol
              .producerCommit nodes untouched]
            split
            · exact Iff.rfl
            · exact (sameTables_advanceProjection _).untouched_iff _ _

/-- `COMMIT_TXN` takes its transaction first. -/
def CommitRests
    (state : State)
    (producer : ProducerId)
    (key : ObjectKey) : Prop :=
  ∀ mutations ∈ state.transactions.find? key,
    MutationsRest protocol
      { state with transactions := state.transactions.erase key } producer
      mutations

theorem untouched_commitTxn_iff
    (session : Session)
    (state : State)
    (envelope : Envelope) :
    Untouched (envelope.transactionKey session.producer) state
        (commitTxn protocol session state (.ok envelope)).1 ↔
      ∀ key ∈ envelope.transactionKey session.producer,
        CommitRests protocol state session.producer key := by
  unfold commitTxn Envelope.transactionKey
  cases named : envelope.transaction with
  | none =>
      refine iff_of_true ?_ ?_
      · simp only [named]
        exact Untouched.refl _ state
      · intro key listed
        cases listed
  | some transaction =>
      simp only [named, Option.map_some, Option.mem_some_iff, forall_eq']
      generalize (⟨session.producer, transaction⟩ : ObjectKey) = key
      unfold CommitRests
      cases stored : state.transactions.find? key with
      | none =>
          refine iff_of_true (Untouched.refl _ state) ?_
          simp only [Option.not_mem_none, false_implies, implies_true]
      | some mutations =>
          simp only [Option.mem_some_iff, forall_eq']
          rw [(sameTables_respondTo session _ _).untouched_iff]
          apply untouched_applyTransaction_iff
          refine ⟨rfl, OrderedMap.Related.refl Source.Alike.refl _,
            SameWaits.refl state, ?_⟩
          intro query other
          rw [OrderedMap.find?_erase, if_neg]
          rintro rfl
          exact other rfl

/-! ## Cancelled deliveries -/

/-- Its source has not been charged what the delivery gives back. -/
def PendingDelivery.Spent (state : State) (pending : PendingDelivery) : Prop :=
  ∀ source ∈ state.sources.find? pending.source,
    source.chargedBytes < pending.creditBytes ∨ source.chargedPackets < 1

/-- No delivery of the source gives back credit. -/
def CancellationRests (state : State) (key : SourceKey) : Prop :=
  ∀ delivery, ∀ pending ∈ state.deliveries.find? delivery,
    pending.source = key → pending.Spent state

/-- The charged packets of a source, and zero without one. -/
def State.chargedPackets (state : State) (key : SourceKey) : Nat :=
  (state.sources.find? key).elim 0 Source.chargedPackets

section

variable (state : State)

/-- Credit is returned where enough was charged. -/
theorem prepareCreditReturn_cases
    (key : SourceKey)
    (bytes packets : Nat) :
    ((prepareCreditReturn state key bytes packets).1 = state ∧
        ∀ source ∈ state.sources.find? key,
          source.chargedBytes < bytes ∨ source.chargedPackets < packets) ∨
      ∃ source refunded,
        state.sources.find? key = some source ∧
          bytes ≤ source.chargedBytes ∧ packets ≤ source.chargedPackets ∧
          refunded.chargedPackets = source.chargedPackets - packets ∧
          (prepareCreditReturn state key bytes packets).1 =
            state.updateSource key fun _ => refunded := by
  unfold prepareCreditReturn
  cases found : state.sources.find? key with
  | none => exact .inl ⟨rfl, fun source there => by cases there⟩
  | some source =>
      dsimp only
      split
      · rename_i short
        refine .inl ⟨rfl, ?_⟩
        rintro other there
        cases there
        exact short
      · rename_i enough
        rw [not_or, Nat.not_lt, Nat.not_lt] at enough
        refine .inr ?_
        split
        · exact ⟨source, _, rfl, enough.1, enough.2, rfl, rfl⟩
        · exact ⟨source, _, rfl, enough.1, enough.2, rfl, rfl⟩

theorem sameTables_returnCredit
    (key : SourceKey)
    (bytes : Nat) :
    SameTables (prepareCreditReturn state key bytes 1).1
      (returnCredit state key bytes) := by
  unfold returnCredit writeDeliveryCredit
  dsimp only
  split
  · exact sameTables_write _ _ _
  · exact SameTables.refl _

/-- What one round of `take_deliveries` does: nothing that is compared, or a
source has fewer charged packets. -/
theorem takeDelivery_cases
    {state : State}
    {delivery : Nat}
    {pending : PendingDelivery}
    (stored : state.deliveries.find? delivery = some pending) :
    (SameTables state (takeDelivery state delivery) ∧ pending.Spent state) ∨
      ¬ pending.Spent state ∧
        (takeDelivery state delivery).chargedPackets pending.source <
          state.chargedPackets pending.source := by
  have dropped : SameTables state (state.dropDelivery delivery pending) :=
    ⟨rfl, rfl, rfl, rfl⟩
  have written := sameTables_returnCredit
    (state.dropDelivery delivery pending) pending.source pending.creditBytes
  have taken : takeDelivery state delivery = returnCredit
      (state.dropDelivery delivery pending) pending.source
      pending.creditBytes := by
    unfold takeDelivery
    rw [stored]
  rw [taken]
  obtain ⟨same, spent⟩ | ⟨source, refunded, found, bytes, packets, less,
      updated⟩ := prepareCreditReturn_cases
    (state.dropDelivery delivery pending) pending.source pending.creditBytes 1
  · rw [same] at written
    exact .inl ⟨dropped.trans written, spent⟩
  · have there : state.sources.find? pending.source = some source := found
    refine .inr ⟨?_, ?_⟩
    · intro spent
      have short := spent source there
      omega
    · unfold State.chargedPackets
      rw [written.sources, updated, there]
      have after : ((state.dropDelivery delivery pending).updateSource
          pending.source fun _ => refunded).sources.find? pending.source =
            some refunded := by
        unfold State.updateSource
        rw [OrderedMap.find?_modify, if_pos rfl, found]
        rfl
      rw [after]
      change refunded.chargedPackets < source.chargedPackets
      omega

theorem chargedPackets_takeDelivery_le
    (delivery : Nat)
    (key : SourceKey) :
    (takeDelivery state delivery).chargedPackets key ≤
      state.chargedPackets key := by
  unfold takeDelivery
  cases stored : state.deliveries.find? delivery with
  | none => exact le_rfl
  | some pending =>
      dsimp only
      have written := sameTables_returnCredit
        (state.dropDelivery delivery pending) pending.source
        pending.creditBytes
      unfold State.chargedPackets
      rw [written.sources]
      obtain ⟨same, -⟩ | ⟨source, refunded, found, -, -, less, updated⟩ :=
        prepareCreditReturn_cases (state.dropDelivery delivery pending)
          pending.source pending.creditBytes 1
      · rw [same]
        exact le_rfl
      · rw [updated]
        unfold State.updateSource
        rw [OrderedMap.find?_modify]
        split
        · rename_i here
          subst here
          rw [found]
          change refunded.chargedPackets ≤
            (state.sources.find? pending.source).elim 0 _
          have there : state.sources.find? pending.source = some source :=
            found
          rw [there]
          change _ ≤ source.chargedPackets
          omega
        · exact le_rfl

/-- No cancellation charges a source. -/
theorem chargedPackets_takeDeliveries_le
    (deliveries : List Nat)
    (key : SourceKey) :
    (takeDeliveries state deliveries).chargedPackets key ≤
      state.chargedPackets key := by
  induction deliveries generalizing state with
  | nil => exact le_rfl
  | cons delivery rest ih =>
      exact (ih _).trans
        (chargedPackets_takeDelivery_le state delivery key)

theorem deliveries_returnCredit
    (key : SourceKey)
    (bytes : Nat) :
    (returnCredit state key bytes).deliveries = state.deliveries := by
  unfold returnCredit writeDeliveryCredit
  dsimp only
  have prepared : (prepareCreditReturn state key bytes 1).1.deliveries =
      state.deliveries := by
    obtain ⟨same, -⟩ | ⟨source, refunded, -, -, -, -, updated⟩ :=
      prepareCreditReturn_cases state key bytes 1
    · rw [same]
    · rw [updated]
      rfl
  split
  · exact prepared
  · exact prepared

/-- One round takes the delivery it is about, and no other. -/
theorem find?_deliveries_takeDelivery
    (delivery other : Nat) :
    (takeDelivery state delivery).deliveries.find? other =
      if other = delivery then none else state.deliveries.find? other := by
  unfold takeDelivery
  cases stored : state.deliveries.find? delivery with
  | none =>
      dsimp only
      split
      · rename_i same
        rw [same, stored]
      · rfl
  | some pending =>
      dsimp only
      rw [deliveries_returnCredit]
      exact OrderedMap.find?_erase state.deliveries delivery other

/-- A source whose charge went down is not as it was. -/
theorem not_untouched_of_refunded
    {key : SourceKey}
    (less : after.chargedPackets key < before.chargedPackets key) :
    ¬ Untouched consumed before after := by
  intro untouched
  unfold State.chargedPackets at less
  cases found : before.sources.find? key with
  | none =>
      rw [found] at less
      exact absurd less (Nat.not_lt_zero _)
  | some source =>
      obtain ⟨still, there, alike⟩ := untouched.sources.exists_after found
      rw [found, there] at less
      have same : still.chargedPackets = source.chargedPackets :=
        alike.field Source.chargedPackets fun _ _ _ _ _ => rfl
      change still.chargedPackets < source.chargedPackets at less
      omega

/-- Deliveries are taken without a trace when none of them gives back credit;
otherwise a source is charged with less. -/
theorem takeDeliveries_cases
    (deliveries : List Nat) :
    (SameTables state (takeDeliveries state deliveries) ∧
        ∀ delivery ∈ deliveries,
          ∀ pending ∈ state.deliveries.find? delivery,
            pending.Spent state) ∨
      (∃ delivery ∈ deliveries,
          ∃ pending ∈ state.deliveries.find? delivery,
            ¬ pending.Spent state) ∧
        ∃ key, (takeDeliveries state deliveries).chargedPackets key <
          state.chargedPackets key := by
  induction deliveries generalizing state with
  | nil => exact .inl ⟨SameTables.refl state, fun _ listed => by cases listed⟩
  | cons delivery rest ih =>
      -- A round that leaves no trace changes nothing for the rounds after it.
      have carried : SameTables state (takeDelivery state delivery) →
          (∀ pending ∈ state.deliveries.find? delivery,
            pending.Spent state) →
          (SameTables state (takeDeliveries state (delivery :: rest)) ∧
              ∀ other ∈ delivery :: rest,
                ∀ pending ∈ state.deliveries.find? other,
                  pending.Spent state) ∨
            (∃ other ∈ delivery :: rest,
                ∃ pending ∈ state.deliveries.find? other,
                  ¬ pending.Spent state) ∧
              ∃ key,
                (takeDeliveries state (delivery :: rest)).chargedPackets key <
                  state.chargedPackets key := by
        intro same spent
        have alike : ∀ pending : PendingDelivery,
            pending.Spent (takeDelivery state delivery) ↔
              pending.Spent state := by
          intro pending
          unfold PendingDelivery.Spent
          rw [same.sources]
        obtain ⟨tables, others⟩ | ⟨⟨other, listed, pending, there, unspent⟩,
            key, less⟩ := ih (takeDelivery state delivery)
        · refine .inl ⟨same.trans tables, List.forall_mem_cons.mpr
            ⟨spent, ?_⟩⟩
          intro other listed pending there
          by_cases here : other = delivery
          · subst here
            exact spent pending there
          · refine (alike pending).mp (others other listed pending ?_)
            rw [find?_deliveries_takeDelivery, if_neg here]
            exact there
        · refine .inr ⟨⟨other, List.mem_cons_of_mem _ listed, pending, ?_,
            fun spent => unspent ((alike pending).mpr spent)⟩, key, ?_⟩
          · rw [find?_deliveries_takeDelivery] at there
            split at there
            · cases there
            · exact there
          · refine less.trans_eq ?_
            unfold State.chargedPackets
            rw [same.sources]
      cases stored : state.deliveries.find? delivery with
      | none =>
          have nothing : takeDelivery state delivery = state := by
            unfold takeDelivery
            rw [stored]
          refine carried (nothing.symm ▸ SameTables.refl state) ?_
          intro pending there
          rw [stored] at there
          cases there
      | some pending =>
          obtain ⟨same, spent⟩ | ⟨unspent, less⟩ := takeDelivery_cases stored
          · refine carried same ?_
            intro other there
            rw [stored] at there
            cases there
            exact spent
          · exact .inr ⟨⟨delivery, List.mem_cons_self, pending, stored,
              unspent⟩, pending.source,
              (chargedPackets_takeDeliveries_le _ rest _).trans_lt less⟩

theorem cancelSourceDeliveries_cases
    (key : SourceKey) :
    (SameTables state (cancelSourceDeliveries state key) ∧
        CancellationRests state key) ∨
      ¬ CancellationRests state key ∧
        ∃ other, (cancelSourceDeliveries state key).chargedPackets other <
          state.chargedPackets other := by
  have listed : ∀ delivery pending,
      state.deliveries.find? delivery = some pending →
        (delivery ∈ (state.deliveries.filter fun _ pending =>
          pending.source == key).keys ↔ pending.source = key) := by
    intro delivery pending stored
    rw [← OrderedMap.mem_def, ← OrderedMap.find?_isSome_iff,
      OrderedMap.find?_filter, stored]
    by_cases same : pending.source = key
    · simp [same]
    · simp [same]
  obtain ⟨same, spent⟩ | ⟨⟨delivery, selected, pending, there, unspent⟩,
      less⟩ := takeDeliveries_cases state
    (state.deliveries.filter fun _ pending => pending.source == key).keys
  · refine .inl ⟨same, ?_⟩
    intro delivery pending there own
    exact spent delivery ((listed delivery pending there).mpr own) pending
      there
  · refine .inr ⟨?_, less⟩
    intro rests
    exact unspent (rests delivery pending there
      ((listed delivery pending there).mp selected))

theorem untouched_cancelSourceDeliveries_iff
    (key : SourceKey) :
    Untouched none state (cancelSourceDeliveries state key) ↔
      CancellationRests state key := by
  obtain ⟨same, rests⟩ | ⟨restless, other, less⟩ :=
    cancelSourceDeliveries_cases state key
  · exact iff_of_true (same.untouched none) rests
  · exact iff_of_false (not_untouched_of_refunded less) restless

/-! ## Harmless locks -/

/-- The event behind `SOURCE_READY` changes nothing that is compared. -/
theorem untouched_announceSource
    (key : SourceKey) :
    Untouched none state (announceSource protocol state key).1 := by
  have tables := (notified_emitSourceEvent protocol state key
    [.lifecycle, .attachment, .descriptor]).tables
  refine Untouched.of_same none tables.1 ?_
    (sameWaits_announceSource protocol state key) tables.2
  unfold announceSource emitSourceEvent
  split
  · rfl
  · split
    · rfl
    · dsimp only
      split
      · rfl
      · unfold offerSource
        split
        · rfl
        · exact sources_offer protocol _ _ _ _ _ _

end

/-- What is asked of a body holds if there is one. -/
def Parsed {α : Type} (parsed : Except String α) (asked : α → Prop) : Prop :=
  match parsed with
  | .error _ => True
  | .ok value => asked value

/-- A record whose body cannot be parsed changes nothing. -/
theorem untouched_parsed_iff
    {α : Type}
    {state : State}
    (after : Except String α → State)
    {asked : α → Prop}
    (parsed : Except String α)
    (unparsed : ∀ text, after (.error text) = state)
    (compared : ∀ value,
      Untouched consumed state (after (.ok value)) ↔ asked value) :
    Untouched consumed state (after parsed) ↔ Parsed parsed asked := by
  cases parsed with
  | error text =>
      rw [unparsed]
      exact iff_of_true (Untouched.refl consumed state) trivial
  | ok value => exact compared value

/-- A record whose features were checked changes nothing. -/
def ControlRecord.Harmless
    (session : Session)
    (state : State)
    (record : ControlRecord)
    (circumstance : Circumstance) : Prop :=
  match record.body with
  | .waitSource parsed =>
      -- The wait is stored before its ID is found to be taken.
      Parsed parsed fun (envelope, request) =>
        WaitAdmitted session state record request →
          ∀ runtime ∈ state.producers.find? session.producer,
            runtime.waits.find? envelope.request = some request.wait
  | .cancelWait parsed =>
      Parsed parsed fun (_, request) =>
        record.objectId = 0 →
          ∀ runtime ∈ state.producers.find? session.producer,
            runtime.waits.find? request = none
  | .createRaster parsed =>
      Parsed parsed fun (request, update) =>
        CreationRefused protocol state session.producer
          (request.creation record.objectId (.raster request.config)
            (some update))
  | .createImage parsed =>
      Parsed parsed fun (request, _) =>
        CreationRefused protocol state session.producer
          (request.creation record.objectId (.image request.config) none)
  | .createVideo parsed =>
      Parsed parsed fun request =>
        protocol.portablePacketization request.config.codec
            request.config.packetization = true →
          CreationRefused protocol state session.producer
            (request.creation record.objectId (.video request.config) none)
  | .createAudio parsed =>
      Parsed parsed fun request =>
        protocol.audioSupported request.config = true →
          CreationRefused protocol state session.producer
            (request.creation record.objectId (.audio request.config) none)
  | .setSourcePolicy parsed =>
      Parsed parsed fun (_, object, requested) =>
        ∀ source ∈ state.sources.find? ⟨session.producer, object⟩,
          ∀ tightened, tightenedCapturePolicy protocol source.capturePolicy
            requested ≠ .ok (some tightened)
  | .updateSourceDescriptor parsed =>
      Parsed parsed fun (_, object, descriptor) =>
        ∀ source ∈ state.sources.find? ⟨session.producer, object⟩,
          descriptor.contentRevision ≤ source.semanticDescriptor.elim 0
            SemanticDescriptor.contentRevision
  | .beginTxn parsed =>
      -- The transaction is stored before its ID is found to be taken.
      Parsed parsed fun envelope =>
        ∀ key ∈ envelope.transactionKey session.producer,
          state.transactions.find? key = some []
  | .createNode parsed =>
      Parsed parsed fun (envelope, node) =>
        NodeAdmitted session state record node →
          ∀ key ∈ envelope.transactionKey session.producer,
            key ∉ state.transactions
  | .updateNode parsed =>
      Parsed parsed fun (envelope, node) =>
        NodeAdmitted session state record node →
          ∀ key ∈ envelope.transactionKey session.producer,
            key ∉ state.transactions
  | .deleteNode parsed =>
      Parsed parsed fun (envelope, _) =>
        ∀ key ∈ envelope.transactionKey session.producer,
          key ∉ state.transactions
  | .commitTxn parsed =>
      Parsed parsed fun envelope =>
        ∀ key ∈ envelope.transactionKey session.producer,
          CommitRests protocol state session.producer key
  | .abortTxn parsed =>
      Parsed parsed fun envelope =>
        ∀ key ∈ envelope.transactionKey session.producer,
          state.transactions.find? key = none
  | .destroySource parsed =>
      Parsed parsed fun (_, object) =>
        state.sources.find? ⟨session.producer, object⟩ = none
  | .play parsed =>
      Parsed parsed fun (envelope, play) =>
        PlaybackRests state ⟨session.producer, play.sourceId⟩ (some play)
          envelope.causation circumstance.now
  | .pause parsed =>
      Parsed parsed fun (_, object) =>
        CancellationRests state ⟨session.producer, object⟩
  | .drain parsed =>
      Parsed parsed fun (_, object) =>
        CancellationRests state ⟨session.producer, object⟩
  | .flush parsed =>
      Parsed parsed fun (_, object, _) =>
        CancellationRests state ⟨session.producer, object⟩
  | _ => True

/-- What a lock does changes nothing. -/
def Lock.Harmless (producer : ProducerId) (lock : Lock) : Prop :=
  match lock.task with
  | .check [] record =>
      record.Harmless protocol
        ⟨producer, rootContext producer, lock.writable⟩ lock.before
        lock.circumstance
  | .setPlayback key envelope =>
      PlaybackRests lock.before key none envelope.causation
        lock.circumstance.now
  | .flush key epoch envelope =>
      RewriteRests protocol lock.before key fun source =>
        source.flushed epoch envelope.causation
  | .applyEos key epoch envelope =>
      RewriteRests protocol lock.before key fun source =>
        source.finished epoch envelope.causation
  | _ => True

theorem untouched_performCreation_iff
    (session : Session)
    (state : State)
    (creation : SourceCreation)
    (supported : Except String Unit)
    (circumstance : Circumstance) :
    Untouched none state
        (performCreation protocol session state (.ok creation) supported
          circumstance).1 ↔
      (supported = .ok () →
        CreationRefused protocol state session.producer creation) := by
  cases supported with
  | error text =>
      refine iff_of_true (Untouched.refl none state) ?_
      intro impossible
      cases impossible
  | ok _ =>
      refine (untouched_performCreate_iff protocol session state creation
        circumstance.token circumstance.now).trans ?_
      exact ⟨fun refused _ => refused, fun refused => refused rfl⟩

section Locks

variable (advances : ∀ counter next, protocol.advance counter = some next →
  counter < next)

include advances

/-- The main part of a record leaves everything as it is exactly when the
record is harmless. -/
theorem untouched_perform_iff
    (session : Session)
    (state : State)
    (record : ControlRecord)
    (circumstance : Circumstance) :
    Untouched (record.body.consumed session.producer) state
        (perform protocol session state record circumstance).1 ↔
      record.Harmless protocol session state circumstance := by
  obtain ⟨objectId, request, body⟩ := record
  have asked : body.Asks → _ :=
    answered_perform protocol session state ⟨objectId, request, body⟩
      circumstance
  unfold ControlRecord.Harmless perform
  cases body with
  | setObservation parsed =>
      exact iff_of_true (untouched_setObservation session state _ parsed none)
        trivial
  | waitSource parsed =>
      exact untouched_parsed_iff
        (fun parsed => (waitSource protocol session state _ parsed).1) parsed
        (fun _ => rfl) fun (envelope, request) =>
          untouched_waitSource_iff protocol session state _ envelope request
  | cancelWait parsed =>
      exact untouched_parsed_iff
        (fun parsed => (cancelWait session state _ parsed).1) parsed
        (fun _ => rfl) fun (envelope, request) =>
          untouched_cancelWait_iff session state _ envelope request
  | createRaster parsed =>
      refine untouched_parsed_iff
        (fun parsed => (performCreation protocol session state
          (parsed.map fun (request, update) =>
            request.creation objectId (.raster request.config) (some update))
          (.ok ()) circumstance).1) parsed (fun _ => rfl) ?_
      rintro ⟨request, update⟩
      exact untouched_performCreate_iff protocol session state _ _ _
  | createImage parsed =>
      refine untouched_parsed_iff
        (fun parsed => (performCreation protocol session state
          (parsed.map fun (request, _) =>
            request.creation objectId (.image request.config) none)
          (.ok ()) circumstance).1) parsed (fun _ => rfl) ?_
      rintro ⟨request, lookup⟩
      exact untouched_performCreate_iff protocol session state _ _ _
  | createVideo parsed =>
      cases parsed with
      | error text => exact iff_of_true (Untouched.refl none state) trivial
      | ok request =>
          refine (untouched_performCreation_iff protocol session state _ _
            circumstance).trans ?_
          unfold Parsed
          dsimp only
          cases protocol.portablePacketization request.config.codec
              request.config.packetization with
          | false => simp
          | true => simp
  | createAudio parsed =>
      cases parsed with
      | error text => exact iff_of_true (Untouched.refl none state) trivial
      | ok request =>
          refine (untouched_performCreation_iff protocol session state _ _
            circumstance).trans ?_
          unfold Parsed
          dsimp only
          cases protocol.audioSupported request.config with
          | false => simp
          | true => simp
  | setSourcePolicy parsed =>
      exact untouched_parsed_iff
        (fun parsed => (setSourcePolicy protocol session state parsed).1)
        parsed (fun _ => rfl) fun (envelope, object, requested) =>
          untouched_setSourcePolicy_iff protocol advances session state
            envelope object requested
  | updateSourceDescriptor parsed =>
      exact untouched_parsed_iff
        (fun parsed =>
          (updateSourceDescriptor protocol session state parsed).1)
        parsed (fun _ => rfl) fun (envelope, object, descriptor) =>
          untouched_updateSourceDescriptor_iff protocol advances session state
            envelope object descriptor
  | beginTxn parsed =>
      exact untouched_parsed_iff
        (fun parsed => (beginTxn session state parsed).1) parsed
        (fun _ => rfl) (untouched_beginTxn_iff session state)
  | createNode parsed =>
      exact untouched_parsed_iff
        (fun parsed => (bufferNode session state _ .create parsed).1) parsed
        (fun _ => rfl) fun (envelope, node) =>
          untouched_bufferNode_iff session state _ .create envelope node
  | updateNode parsed =>
      exact untouched_parsed_iff
        (fun parsed => (bufferNode session state _ .update parsed).1) parsed
        (fun _ => rfl) fun (envelope, node) =>
          untouched_bufferNode_iff session state _ .update envelope node
  | deleteNode parsed =>
      exact untouched_parsed_iff
        (fun parsed => (deleteNode session state _ parsed).1) parsed
        (fun _ => rfl) fun (envelope, node) =>
          untouched_deleteNode_iff session state _ envelope node
  | commitTxn parsed =>
      cases parsed with
      | error text => exact iff_of_true (Untouched.refl none state) trivial
      | ok envelope =>
          exact untouched_commitTxn_iff protocol session state envelope
  | abortTxn parsed =>
      exact untouched_parsed_iff
        (fun parsed => (abortTxn session state parsed).1) parsed
        (fun _ => rfl) (untouched_abortTxn_iff session state)
  | destroySource parsed =>
      refine untouched_parsed_iff
        (fun parsed => (destroySource protocol session state parsed).1) parsed
        (fun _ => rfl) ?_
      rintro ⟨envelope, object⟩
      exact ((sameTables_respondTo session _ _).untouched_iff none state).trans
        (untouched_removeSource_iff protocol state _)
  | play parsed =>
      refine untouched_parsed_iff
        (fun parsed => (performPlay protocol session state parsed
          circumstance.now).1) parsed (fun _ => rfl) ?_
      rintro ⟨envelope, play⟩
      exact ((sameTables_respondTo session _ _).untouched_iff none state).trans
        (untouched_setPlayback_iff protocol advances state _ _ _ _)
  | pause parsed | drain parsed =>
      exact untouched_parsed_iff
        (fun parsed => (startPause session state parsed).1) parsed
        (fun _ => rfl) fun (_, object) =>
          untouched_cancelSourceDeliveries_iff state _
  | flush parsed =>
      exact untouched_parsed_iff
        (fun parsed => (startFlush session state parsed).1) parsed
        (fun _ => rfl) fun (_, object, _) =>
          untouched_cancelSourceDeliveries_iff state _
  | _ =>
      exact iff_of_true ((asked trivial).sameTables.untouched none) trivial

/-- A lock leaves everything as it is exactly when it is harmless. -/
theorem untouched_lock_iff
    (producer : ProducerId)
    (lock : Lock) :
    Untouched (lock.task.consumed producer) lock.before
        (lock.result protocol producer).1 ↔
      lock.Harmless protocol producer := by
  obtain ⟨task, before, circumstance, writable⟩ := lock
  unfold Lock.Harmless Lock.result
  cases task with
  | check features record =>
      cases features with
      | nil =>
          exact untouched_perform_iff protocol advances
            ⟨producer, rootContext producer, writable⟩ before record
            circumstance
      | cons feature rest =>
          refine iff_of_true ?_ trivial
          dsimp only [runTask]
          split
          · exact Untouched.refl _ before
          · exact (sameTables_respond _ before _).untouched _
  | announce key =>
      exact iff_of_true (untouched_announceSource protocol before key) trivial
  | setPlayback key envelope =>
      exact ((sameTables_respondTo _ _ _).untouched_iff none before).trans
        (untouched_setPlayback_iff protocol advances before _ _ _ _)
  | flush key epoch envelope =>
      exact ((sameTables_respondTo _ _ _).untouched_iff none before).trans
        (untouched_flushSource_iff protocol advances before _ _ _)
  | awaitDeliveries key epoch envelope =>
      refine iff_of_true ?_ trivial
      dsimp only [runTask]
      split
      · exact Untouched.refl none before
      · exact Untouched.refl none before
  | applyEos key epoch envelope =>
      exact ((sameTables_respondTo _ _ _).untouched_iff none before).trans
        (untouched_applyInnerEos_iff protocol advances before _ _ _)
  | withdrawBarrier key =>
      refine iff_of_true ?_ trivial
      have same : SameTables before
          { before with
            pendingMediaBarriers := before.pendingMediaBarriers.erase key } :=
        ⟨rfl, rfl, rfl, rfl⟩
      exact same.untouched none

end Locks

/-! ## Whole records -/

/-- No other thread changes the state between the locks of a list. -/
inductive Undisturbed
    (producer : ProducerId) :
    State → List Lock → State → Prop
  | nil (state : State) : Undisturbed producer state [] state
  | cons {lock : Lock} {rest : List Lock} {after : State} :
      Undisturbed producer (lock.result protocol producer).1 rest after →
      Undisturbed producer lock.before (lock :: rest) after

theorem Undisturbed.single
    (undisturbed : Undisturbed protocol producer before [lock] after) :
    lock.before = before ∧ (lock.result protocol producer).1 = after := by
  cases undisturbed with
  | cons finished =>
      generalize (lock.result protocol producer).1 = middle at finished
      cases finished
      exact ⟨rfl, rfl⟩

/-- The record is over for its thread. -/
def Progress.Ends :
    Progress → Prop
  | .next _ => False
  | _ => True

section

variable (session : Session) (state : State)

@[simp] theorem ends_respond
    (reply : Reply) : (respond session state reply).2.Ends := by
  unfold respond
  split
  · trivial
  · trivial

@[simp] theorem ends_respondTo
    (session : Session)
    (result : State × Except String Unit)
    (reply : Reply) : (respondTo session result reply).2.Ends := by
  unfold respondTo
  split
  · trivial
  · exact ends_respond session _ reply

@[simp] theorem ends_respondEncoded
    (reply : Reply) : (respondEncoded protocol session state reply).2.Ends := by
  unfold respondEncoded
  split
  · trivial
  · exact ends_respond session state reply

@[simp] theorem ends_registerWait
    (request : Nat)
    (wait : PendingSourceWait) :
    (registerWait session state request wait).2.Ends := by
  unfold registerWait
  split
  · trivial
  · split
    · trivial
    · dsimp only
      split
      · trivial
      · trivial

/-- A record that takes the lock again. -/
def ControlBody.Continues :
    ControlBody → Prop
  | .createRaster _ => True
  | .createImage _ => True
  | .createVideo _ => True
  | .createAudio _ => True
  | .pause _ => True
  | .drain _ => True
  | .flush _ => True
  | .eos _ => True
  | _ => False

/-- All other records are over after one lock. -/
theorem ends_perform
    (record : ControlRecord)
    (circumstance : Circumstance)
    (once : ¬ record.body.Continues) :
    (perform protocol session state record circumstance).2.Ends := by
  obtain ⟨objectId, request, body⟩ := record
  cases body with
  | createRaster parsed | createImage parsed | createVideo parsed
  | createAudio parsed | pause parsed | drain parsed | flush parsed
  | eos parsed =>
      exact absurd trivial once
  | _ =>
      simp only [perform, setObservation, querySource, queryScene, queryAnchor,
        queryLimits, waitSource, cancelWait, probeVideo, probeAudio,
        setSourcePolicy, updateSourceDescriptor, beginTxn, bufferNode,
        deleteNode, commitTxn, abortTxn, destroySource, performPlay,
        performPing, performGoodbye]
      repeat' first | split | dsimp only
      all_goals first | trivial | simp

end

/-- What follows the main part of a `CREATE_*` record. -/
theorem next_performCreation
    {session : Session}
    {state : State}
    {parsed : Except String SourceCreation}
    {supported : Except String Unit}
    {circumstance : Circumstance}
    (next : (performCreation protocol session state parsed supported
      circumstance).2 = .next task) :
    ∃ key, task = .announce key := by
  unfold performCreation at next
  split at next
  · cases next
  · cases next
  · unfold performCreate at next
    dsimp only at next
    split at next
    · cases next
    · split at next
      · cases next
      · split at next
        · cases next
          exact ⟨_, rfl⟩
        · cases next

/-- What follows `PAUSE` and `DRAIN`. -/
theorem next_startPause
    {session : Session}
    {state : State}
    {parsed : Except String (Envelope × Nat)}
    (next : (startPause session state parsed).2 = .next task) :
    ∃ key, (startPause session state parsed).1 =
        cancelSourceDeliveries state key ∧
      ∃ envelope, task = .setPlayback key envelope := by
  cases parsed with
  | error text => cases next
  | ok value =>
      cases next
      exact ⟨_, rfl, _, rfl⟩

/-- What follows `FLUSH`. -/
theorem next_startFlush
    {session : Session}
    {state : State}
    {parsed : Except String (Envelope × Nat × Nat)}
    (next : (startFlush session state parsed).2 = .next task) :
    ∃ key, (startFlush session state parsed).1 =
        cancelSourceDeliveries state key ∧
      ∃ epoch envelope, task = .flush key epoch envelope := by
  cases parsed with
  | error text => cases next
  | ok value =>
      cases next
      exact ⟨_, rfl, _, _, rfl⟩

/-- What follows `EOS`. -/
theorem next_startEos
    {session : Session}
    {state : State}
    {record : ControlRecord}
    {parsed : Except String (Envelope × EosRequest)}
    {spawns : Bool}
    (next : (startEos session state record parsed spawns).2 = .next task) :
    (∃ key epoch envelope, task = .awaitDeliveries key epoch envelope) ∨
      ∃ key, task = .withdrawBarrier key := by
  have ended : ∀ {progress : Progress}, progress.Ends →
      progress = .next task → False := by
    rintro progress ends rfl
    exact ends
  unfold startEos at next
  split at next
  · cases next
  · dsimp only at next
    split at next
    · cases next
    · split at next
      · cases next
        exact .inl ⟨_, _, _, rfl⟩
      · split at next
        · exact (ended (ends_respond _ _ _) next).elim
        · split at next
          · exact (ended (ends_respond _ _ _) next).elim
          · split at next
            · exact (ended (ends_respond _ _ _) next).elim
            · split at next
              · exact (ended (ends_respond _ _ _) next).elim
              · split at next
                · cases next
                · cases next
                  exact .inr ⟨_, rfl⟩

/-- A record that goes on after a lock: nothing happened yet, or a source was
created, or the deliveries of one were cancelled. -/
theorem next_cases
    (next : (lock.result protocol producer).2 = .next task) :
    task.consumed producer = lock.task.consumed producer ∧
      (SameTables lock.before (lock.result protocol producer).1 ∨
        (∃ key, task = .announce key) ∨
        ∃ key,
          (lock.result protocol producer).1 =
              cancelSourceDeliveries lock.before key ∧
            ((∃ envelope, task = .setPlayback key envelope) ∨
              ∃ epoch envelope, task = .flush key epoch envelope)) := by
  obtain ⟨task', before, circumstance, writable⟩ := lock
  have ended : ∀ {progress : Progress}, progress.Ends →
      progress = .next task → False := by
    rintro progress ends rfl
    exact ends
  unfold Lock.result at *
  cases task' with
  | check features record =>
      cases features with
      | cons feature rest =>
          dsimp only [runTask] at *
          split at next
          · rename_i negotiated
            cases next
            rw [if_pos negotiated]
            exact ⟨rfl, .inl (SameTables.refl before)⟩
          · exact (ended (ends_respond _ _ _) next).elim
      | nil =>
          dsimp only [runTask] at *
          by_cases continues : record.body.Continues
          · obtain ⟨objectId, request, body⟩ := record
            unfold perform at *
            cases body with
            | createRaster parsed | createImage parsed | createVideo parsed
            | createAudio parsed =>
                obtain ⟨key, rfl⟩ := next_performCreation protocol next
                exact ⟨rfl, .inr (.inl ⟨key, rfl⟩)⟩
            | pause parsed | drain parsed =>
                obtain ⟨key, cancelled, envelope, rfl⟩ := next_startPause next
                exact ⟨rfl, .inr (.inr ⟨key, cancelled, .inl ⟨_, rfl⟩⟩)⟩
            | flush parsed =>
                obtain ⟨key, cancelled, epoch, envelope, rfl⟩ :=
                  next_startFlush next
                exact ⟨rfl, .inr (.inr ⟨key, cancelled, .inr ⟨_, _, rfl⟩⟩)⟩
            | eos parsed =>
                have same := (answered_startEos
                  ⟨producer, rootContext producer, writable⟩ before
                  ⟨objectId, request, .eos parsed⟩ parsed
                  circumstance.spawns).sameTables
                obtain ⟨key, epoch, envelope, rfl⟩ | ⟨key, rfl⟩ :=
                  next_startEos next
                · exact ⟨rfl, .inl same⟩
                · exact ⟨rfl, .inl same⟩
            | _ => exact continues.elim
          · exact (ended (ends_perform protocol _ before record circumstance
              continues) next).elim
  | announce key => cases next
  | setPlayback key envelope | flush key epoch envelope =>
      exact (ended (ends_respondTo _ _ _) next).elim
  | awaitDeliveries key epoch envelope =>
      dsimp only [runTask] at *
      split at next
      · rename_i pending
        cases next
        rw [if_pos pending]
        exact ⟨rfl, .inl (SameTables.refl before)⟩
      · rename_i taken
        cases next
        rw [if_neg taken]
        exact ⟨rfl, .inl (SameTables.refl before)⟩
  | applyEos key epoch envelope =>
      exact (ended (ends_respondTo _ _ _) next).elim
  | withdrawBarrier key => cases next

variable {result : Except String Bool} {locks : List Lock}

/-- The record of a task that follows is the same as far as it is compared. -/
theorem consumed_of_finishes
    (finishes : Finishes protocol producer task locks result) :
    ∀ lock ∈ locks, lock.task.consumed producer = task.consumed producer := by
  induction finishes with
  | done _ => simp
  | timer _ => simp
  | worker _ => simp
  | next following _ ih =>
      rw [List.forall_mem_cons]
      refine ⟨rfl, ?_⟩
      intro lock listed
      rw [ih lock listed]
      exact (next_cases protocol following).1

/-- A task that is over after one lock. -/
theorem finishes_once
    (ends : ∀ lock : Lock, lock.task = task →
      (lock.result protocol producer).2.Ends)
    (finishes : Finishes protocol producer task locks result) :
    ∃ lock, lock.task = task ∧ locks = [lock] := by
  cases finishes with
  | done _ | timer _ | worker _ => exact ⟨_, rfl, rfl⟩
  | next following _ =>
      have isOver := ends _ rfl
      rw [following] at isOver
      exact isOver.elim

/-- Rewriting a source without its charge. -/
theorem chargedPackets_updateSource
    (state : State)
    (key other : SourceKey)
    (rewrite : Source → Source)
    (kept : ∀ source,
      (rewrite source).chargedPackets = source.chargedPackets) :
    (state.updateSource key rewrite).chargedPackets other =
      state.chargedPackets other := by
  unfold State.chargedPackets State.updateSource
  rw [OrderedMap.find?_modify]
  split
  · cases state.sources.find? other with
    | none => rfl
    | some source => exact kept source
  · rfl

theorem chargedPackets_of_notified
    (notified : Notified before after)
    (key : SourceKey) :
    after.chargedPackets key = before.chargedPackets key := by
  unfold State.chargedPackets
  cases found : before.sources.find? key with
  | none =>
      have missing : after.sources.find? key = none := by
        rw [OrderedMap.find?_eq_none_iff, notified.sources.mem_iff,
          ← OrderedMap.find?_eq_none_iff]
        exact found
      rw [missing]
  | some source =>
      obtain ⟨revised, there, related⟩ := notified.sources.exists_after found
      rw [there]
      change revised.chargedPackets = source.chargedPackets
      rw [related]

theorem SameTables.chargedPackets
    (same : SameTables before after)
    (key : SourceKey) :
    after.chargedPackets key = before.chargedPackets key := by
  unfold State.chargedPackets
  rw [same.sources]

theorem chargedPackets_controlled
    (play : Option PlayRequest)
    (changed : Bool)
    (causation : Option Nat)
    (now : Nat) :
    (source.controlled play changed causation now).chargedPackets =
      source.chargedPackets := by
  unfold Source.controlled
  split
  · rfl
  · split
    · rfl
    · rfl

/-- A playback control charges no source and returns no credit. -/
theorem chargedPackets_setPlayback
    (state : State)
    (key other : SourceKey)
    (play : Option PlayRequest)
    (causation : Option Nat)
    (now : Nat) :
    (setPlayback protocol state key play causation now).1.chargedPackets
        other =
      state.chargedPackets other := by
  unfold setPlayback
  cases state.sources.find? key with
  | none => rfl
  | some source =>
      dsimp only
      split
      · rfl
      · generalize changes : (source.playing != play.isSome ||
          play.any fun request => request != source.playRequest) = changed
        have controlled := chargedPackets_updateSource state key other
          (fun source => source.controlled play changed causation now)
          fun source => chargedPackets_controlled source play changed causation
            now
        split
        · change (concluded _).1.chargedPackets other = _
          rw [(sameTables_concluded _).chargedPackets,
            chargedPackets_of_notified (notified_advanceSource protocol _ _ _)]
          split
          · refine (chargedPackets_updateSource _ key other _ ?_).trans
              controlled
            exact fun _ => rfl
          · exact controlled
        · exact controlled

theorem chargedPackets_flushSource
    (state : State)
    (key other : SourceKey)
    (epoch : Nat)
    (causation : Option Nat) :
    (flushSource protocol state key epoch causation).1.chargedPackets other =
      state.chargedPackets other := by
  unfold flushSource
  split
  · exact (chargedPackets_of_notified
      (notified_advanceSource protocol _ _ _) other).trans
        (chargedPackets_updateSource state key other _ fun _ => rfl)
  · rfl

/-- What a lock has changed, no later lock of the record takes back. -/
theorem untouched_of_undisturbed
    {rest : List Lock}
    (following : (lock.result protocol producer).2 = .next task)
    (finishes : Finishes protocol producer task rest result)
    (undisturbed : Undisturbed protocol producer
      (lock.result protocol producer).1 rest after)
    (untouched : Untouched (lock.task.consumed producer) lock.before after) :
    Untouched (lock.task.consumed producer) lock.before
      (lock.result protocol producer).1 := by
  obtain ⟨sameRecord, same | ⟨key, rfl⟩ | ⟨key, cancelled, goesOn⟩⟩ :=
    next_cases protocol following
  · exact same.untouched _
  · obtain ⟨announcing, named, rfl⟩ := finishes_once protocol
      (by
        rintro ⟨_, before, circumstance, writable⟩ rfl
        trivial) finishes
    obtain ⟨starts, rfl⟩ := undisturbed.single
    have announced := untouched_announceSource protocol announcing.before key
    rw [starts] at announced
    have told : (announcing.result protocol producer).1 =
        (announceSource protocol (lock.result protocol producer).1 key).1 := by
      unfold Lock.result at starts ⊢
      rw [named, starts]
      rfl
    rw [← sameRecord] at untouched ⊢
    rw [told] at untouched
    exact untouched.trans announced.symm
  · obtain ⟨rests, -⟩ | ⟨-, other, less⟩ :=
      cancelSourceDeliveries_cases lock.before key
    · rw [cancelled]
      exact rests.untouched _
    · rw [← cancelled] at less
      suffices kept : after.chargedPackets other =
          (lock.result protocol producer).1.chargedPackets other from
        (not_untouched_of_refunded (kept.trans_lt less) untouched).elim
      obtain ⟨envelope, rfl⟩ | ⟨epoch, envelope, rfl⟩ := goesOn
      · obtain ⟨setting, named, rfl⟩ := finishes_once protocol
          (by
            rintro ⟨_, before, circumstance, writable⟩ rfl
            exact ends_respondTo _ _ _) finishes
        obtain ⟨starts, rfl⟩ := undisturbed.single
        rw [← starts]
        unfold Lock.result
        rw [named]
        exact ((sameTables_respondTo _ _ _).chargedPackets other).trans
          (chargedPackets_setPlayback protocol _ _ _ _ _ _)
      · obtain ⟨flushing, named, rfl⟩ := finishes_once protocol
          (by
            rintro ⟨_, before, circumstance, writable⟩ rfl
            exact ends_respondTo _ _ _) finishes
        obtain ⟨starts, rfl⟩ := undisturbed.single
        rw [← starts]
        unfold Lock.result
        rw [named]
        exact ((sameTables_respondTo _ _ _).chargedPackets other).trans
          (chargedPackets_flushSource protocol _ _ _ _ _)

/-- What a record has done after all its locks, with no other thread between
them. -/
theorem untouched_run_iff
    (advances : ∀ counter next, protocol.advance counter = some next →
      counter < next)
    {producer : ProducerId}
    {task : Task}
    {locks : List Lock}
    {result : Except String Bool}
    {before after : State}
    (finishes : Finishes protocol producer task locks result)
    (undisturbed : Undisturbed protocol producer before locks after) :
    Untouched (task.consumed producer) before after ↔
      ∀ lock ∈ locks, lock.Harmless protocol producer := by
  have alone : ∀ {lock : Lock} {before : State},
      Undisturbed protocol producer before [lock] after →
        (Untouched (lock.task.consumed producer) before after ↔
          ∀ other ∈ [lock], other.Harmless protocol producer) := by
    intro lock before undisturbed
    obtain ⟨rfl, rfl⟩ := undisturbed.single
    rw [List.forall_mem_singleton]
    exact untouched_lock_iff protocol advances producer lock
  induction finishes generalizing before with
  | done _ | timer _ | worker _ => exact alone undisturbed
  | @next lock task rest result following finishes ih =>
      cases undisturbed with
      | cons rests =>
          have same := (next_cases protocol following).1
          have later := ih rests
          rw [same] at later
          rw [List.forall_mem_cons]
          refine Iff.trans ?_ (and_congr
            (untouched_lock_iff protocol advances producer lock) later)
          constructor
          · intro untouched
            have first := untouched_of_undisturbed protocol following finishes
              rests untouched
            exact ⟨first, first.symm.trans untouched⟩
          · rintro ⟨first, second⟩
            exact first.trans second

/-- The first lock of a record that needs no feature. -/
def refusedLock (state : State) (body : ControlBody) : Lock where
  task := .check [] ⟨0, 1, body⟩
  before := state
  circumstance := ⟨0, 9, true⟩
  writable := true

/-- Producer 1 begins transaction 5 and deletes node 2 in it. -/
def deletingNode :
    List PresenterEvent :=
  controlling 0 (.beginTxn (.ok ⟨1, some 5, none⟩)) 1 ++
    controlling 2 (.deleteNode (.ok (⟨1, some 5, none⟩, 2))) 1

end Media
end Vvmux
