import Vvmux.Media.Steps

/-!
# Accounting of retained and queued bytes

The presenter counts the bytes its sources retain and the bytes its bridge
deliveries queue.  Both counts are sums over the tables, and no subtraction
from them is ever cut off.
-/

namespace Vvmux
namespace Media

open Library

variable (protocol : Protocol)

/-- A source that counts what it retains; a timed source retains nothing. -/
structure Source.Counted (source : Source) : Prop where
  exact : source.retainedBytes = retainedLength source.retained
  timed : source.descriptor.isTimed = true → source.retained = none

/-- The byte counts of the shared state are those of its tables. -/
structure Accounted (state : State) : Prop where
  retained :
    state.retainedBytes =
      state.sources.total fun _ source => source.retainedBytes
  sources : ∀ key source, state.sources.find? key = some source →
    source.Counted
  limit : state.retainedBytes ≤ state.config.aggregateRetainedBytes
  queued :
    state.queuedBridgeBytes =
      state.deliveries.total fun _ pending => pending.queuedBytes
  numbered : ∀ delivery, delivery ∈ state.deliveries →
    delivery ≤ state.nextDeliveryId
  exact : state.saturated = false

/-- A source whose retained body stays as it is. -/
structure Source.KeepsBody (before after : Source) : Prop where
  descriptor : after.descriptor = before.descriptor
  retained : after.retained = before.retained
  retainedBytes : after.retainedBytes = before.retainedBytes

theorem Source.KeepsBody.refl (source : Source) : source.KeepsBody source :=
  ⟨rfl, rfl, rfl⟩

theorem Source.KeepsBody.counted
    {before after : Source}
    (keeps : before.KeepsBody after)
    (counted : before.Counted) : after.Counted where
  exact := by
    rw [keeps.retainedBytes, keeps.retained]
    exact counted.exact
  timed := by
    rw [keeps.descriptor, keeps.retained]
    exact counted.timed

theorem Source.Quiet.keepsBody
    {before after : Source}
    (quiet : before.Quiet after) : before.KeepsBody after :=
  { quiet with }

/-! ## Changes that leave the counts alone -/

variable {before after state : State} {key : SourceKey} {source : Source}

/-- Bodies that stay keep the accounts, whatever else changes. -/
theorem Accounted.keep
    (accounted : Accounted before)
    (sources : before.sources.Related Source.KeepsBody after.sources)
    (config : after.config = before.config)
    (retainedBytes : after.retainedBytes = before.retainedBytes)
    (queuedBridgeBytes : after.queuedBridgeBytes = before.queuedBridgeBytes)
    (deliveries : after.deliveries = before.deliveries)
    (nextDeliveryId : after.nextDeliveryId = before.nextDeliveryId)
    (saturated : after.saturated = before.saturated) : Accounted after where
  retained := by
    rw [retainedBytes, accounted.retained]
    exact (sources.total_eq fun _ _ _ keeps => keeps.retainedBytes).symm
  sources := by
    intro key source found
    obtain ⟨old, there, keeps⟩ := sources.exists_before found
    exact keeps.counted (accounted.sources key old there)
  limit := by
    rw [retainedBytes, config]
    exact accounted.limit
  queued := by
    rw [queuedBridgeBytes, deliveries]
    exact accounted.queued
  numbered := by
    rw [deliveries, nextDeliveryId]
    exact accounted.numbered
  exact := saturated.trans accounted.exact

/-- Rewriting a source that keeps its body. -/
theorem Accounted.updateSource
    (accounted : Accounted state)
    (key : SourceKey)
    (change : Source → Source)
    (keeps : ∀ source, state.sources.find? key = some source →
      source.KeepsBody (change source)) :
    Accounted (state.updateSource key change) :=
  accounted.keep
    (OrderedMap.related_modify Source.KeepsBody.refl _ _ _ keeps)
    rfl rfl rfl rfl rfl rfl

/-- Tables without bytes. -/
theorem Accounted.others
    (accounted : Accounted before)
    (sources : after.sources = before.sources)
    (config : after.config = before.config)
    (retainedBytes : after.retainedBytes = before.retainedBytes)
    (queuedBridgeBytes : after.queuedBridgeBytes = before.queuedBridgeBytes)
    (deliveries : after.deliveries = before.deliveries)
    (nextDeliveryId : after.nextDeliveryId = before.nextDeliveryId)
    (saturated : after.saturated = before.saturated) : Accounted after := by
  refine accounted.keep ?_ config retainedBytes queuedBridgeBytes deliveries
    nextDeliveryId saturated
  rw [sources]
  exact .refl Source.KeepsBody.refl _

/-- The charge of a source is not what it retains. -/
theorem keepsBody_settle
    (source : Source)
    (projected : Bool)
    (bytes : Nat) : source.KeepsBody (source.settle projected bytes) := by
  unfold Source.settle
  simp only
  split
  · exact ⟨rfl, rfl, rfl⟩
  · exact ⟨rfl, rfl, rfl⟩

/-! ## Bytes that come and go -/

section

variable (accounted : Accounted state)
include accounted

/-- The bytes of one source are within the total. -/
theorem Accounted.within
    (found : state.sources.find? key = some source) :
    source.retainedBytes ≤ state.retainedBytes := by
  have split := OrderedMap.total_erase
    (fun _ source => source.retainedBytes) state.sources key source found
  have retained := accounted.retained
  omega

/-- Taking off the bytes of a source does not cut the count off. -/
theorem Accounted.release_exact
    (found : state.sources.find? key = some source) :
    (state.releaseRetained source.retainedBytes).saturated = false := by
  have within := accounted.within found
  simp only [State.releaseRetained, accounted.exact, Bool.false_or,
    decide_eq_false_iff_not]
  omega

theorem Accounted.dropSource
    (found : state.sources.find? key = some source) :
    Accounted (state.dropSource key source) where
  retained := by
    have split := OrderedMap.total_erase
      (fun _ source => source.retainedBytes) state.sources key source found
    have retained := accounted.retained
    simp only [State.dropSource, State.releaseRetained]
    omega
  sources := by
    intro query other there
    simp only [State.dropSource, State.releaseRetained,
      OrderedMap.find?_erase] at there
    split at there
    · cases there
    · exact accounted.sources query other there
  limit := by
    have limit := accounted.limit
    simp only [State.dropSource, State.releaseRetained]
    omega
  queued := accounted.queued
  numbered := accounted.numbered
  exact := accounted.release_exact found

/-- A body is retained in place of another. -/
theorem Accounted.retain
    {body : Retained}
    (found : state.sources.find? key = some source)
    (static : source.descriptor.isStatic = true)
    (room : state.retainedBytes - source.retainedBytes + body.length ≤
      state.config.aggregateRetainedBytes) :
    Accounted
      ((state.exchangeRetained source.retainedBytes body.length).updateSource
        key fun source => source.retain (some body)) where
  retained := by
    have rewritten := OrderedMap.total_modify
      (fun _ source => source.retainedBytes) found
      fun source => source.retain (some body)
    have retained := accounted.retained
    have within := accounted.within found
    simp only [State.updateSource, State.exchangeRetained,
      State.releaseRetained, Source.retain] at rewritten ⊢
    omega
  sources := by
    intro query other there
    simp only [State.updateSource, State.exchangeRetained,
      State.releaseRetained, OrderedMap.find?_modify] at there
    split at there
    · rename_i here
      rw [here, found] at there
      cases there
      refine ⟨rfl, ?_⟩
      intro timed
      simp [SourceDescriptor.isTimed, Source.retain, static] at timed
    · exact accounted.sources query other there
  limit := room
  queued := accounted.queued
  numbered := accounted.numbered
  exact := accounted.release_exact found

/-- A timed source has no bytes to exchange. -/
theorem Accounted.retainNothing
    (found : state.sources.find? key = some source)
    (timed : source.descriptor.isTimed = true) :
    Accounted (state.exchangeRetained source.retainedBytes 0) := by
  have counted := accounted.sources key source found
  have none : source.retainedBytes = 0 := by
    rw [counted.exact, counted.timed timed]
    rfl
  have exact := accounted.release_exact found
  rw [none] at exact ⊢
  exact accounted.others rfl rfl rfl rfl rfl rfl (exact.trans accounted.exact.symm)

theorem Accounted.dropDelivery
    {delivery : Nat}
    {pending : PendingDelivery}
    (found : state.deliveries.find? delivery = some pending) :
    Accounted (state.dropDelivery delivery pending) := by
  have split := OrderedMap.total_erase
    (fun _ pending => pending.queuedBytes) state.deliveries delivery pending
    found
  have queued := accounted.queued
  constructor
  case retained => exact accounted.retained
  case sources => exact accounted.sources
  case limit => exact accounted.limit
  case queued =>
    simp only [State.dropDelivery, State.releaseQueued]
    omega
  case numbered =>
    intro other there
    simp only [State.dropDelivery, OrderedMap.mem_erase] at there
    exact accounted.numbered other there.1
  case exact =>
    simp only [State.dropDelivery, State.releaseQueued, accounted.exact,
      Bool.false_or, decide_eq_false_iff_not]
    omega

/-- Deliveries are numbered afresh. -/
theorem Accounted.enterDelivery
    (pending : PendingDelivery) :
    Accounted (state.enterDelivery (state.nextDeliveryId + 1) pending) := by
  have fresh : state.nextDeliveryId + 1 ∉ state.deliveries := by
    intro present
    have below := accounted.numbered _ present
    omega
  have inserted := OrderedMap.total_insert_of_not_mem
    (fun _ pending => pending.queuedBytes) state.deliveries
    (state.nextDeliveryId + 1) pending fresh
  have queued := accounted.queued
  constructor
  case retained => exact accounted.retained
  case sources => exact accounted.sources
  case limit => exact accounted.limit
  case queued =>
    simp only [State.enterDelivery]
    omega
  case numbered =>
    intro other there
    simp only [State.enterDelivery, OrderedMap.mem_insert] at there ⊢
    rcases there with rfl | before
    · exact Nat.le_refl _
    · have below := accounted.numbered other before
      omega
  case exact => exact accounted.exact

end

/-! ## Changes and deeds -/

theorem Accounted.change
    (accounted : Accounted before)
    (change : Change before after) : Accounted after := by
  cases change with
  | quiet quiet =>
      exact accounted.keep
        (quiet.sources.weaken fun _ _ same => same.keepsBody) quiet.config
        quiet.retainedBytes quiet.queuedBridgeBytes quiet.deliveries
        quiet.nextDeliveryId quiet.saturated
  | charge key source bytes found affords =>
      exact accounted.updateSource key _ fun _ _ => ⟨rfl, rfl, rfl⟩
  | overflow key source after bytes found affords beyond only =>
      refine accounted.updateSource key _ ?_
      intro current here
      rw [found] at here
      rw [← Option.some.inj here, only]
      exact ⟨rfl, rfl, rfl⟩
  | settle key source projected bytes found enough packets =>
      exact accounted.updateSource key _ fun source _ =>
        keepsBody_settle source projected bytes
  | dropDelivery delivery pending found => exact accounted.dropDelivery found
  | enterDelivery pending source found serial =>
      exact accounted.enterDelivery pending
  | retain key source body found static room =>
      exact accounted.retain found static room
  | retainNothing key source found timed =>
      exact accounted.retainNothing found timed
  | tryRetain key source found =>
      exact accounted.others rfl rfl rfl rfl rfl rfl
        ((accounted.release_exact found).trans accounted.exact.symm)
  | pruneSource key source found orphaned => exact accounted.dropSource found
  | _ => exact accounted.others rfl rfl rfl rfl rfl rfl rfl

/-- A source that was just created retains nothing. -/
theorem Accounted.createSource
    (accounted : Accounted state)
    (producerId : ProducerId)
    (creation : SourceCreation)
    (maximum : UInt32)
    (serial now token : Nat)
    (ticket : Ticket)
    (fresh : creation.key producerId ∉ state.sources) :
    Accounted
      (state.enterSource (creation.key producerId)
        (creation.source producerId maximum serial now) token ticket) where
  retained := by
    have inserted := OrderedMap.total_insert_of_not_mem
      (fun _ source => source.retainedBytes) state.sources
      (creation.key producerId)
      (creation.source producerId maximum serial now) fresh
    have nothing :
        (creation.source producerId maximum serial now).retainedBytes = 0 :=
      rfl
    have retained := accounted.retained
    simp only [State.enterSource]
    omega
  sources := by
    intro query other there
    simp only [State.enterSource, OrderedMap.find?_insert] at there
    split at there
    · cases there
      exact ⟨rfl, fun _ => rfl⟩
    · exact accounted.sources query other there
  limit := accounted.limit
  queued := accounted.queued
  numbered := accounted.numbered
  exact := accounted.exact

theorem Accounted.deed
    {deed : Deed}
    (accounted : Accounted before)
    (performs : Performs protocol before deed after) : Accounted after := by
  cases performs with
  | createSource producerId creation maximum token now valid few fits fresh =>
      exact accounted.createSource producerId creation maximum _ now token _
        fresh
  | destroySource key source found =>
      exact (accounted.dropSource found).others rfl rfl rfl rfl rfl rfl rfl
  | attachChannel token ticket source found
  | flushSource key source epoch causation found =>
      exact accounted.updateSource _ _ fun _ _ => ⟨rfl, rfl, rfl⟩
  | endSource key source epoch causation found =>
      refine accounted.updateSource _ _ ?_
      intro current here
      have counted := accounted.sources key current here
      unfold Source.finished
      simp only
      split
      · exact ⟨rfl, rfl, rfl⟩
      · rename_i timed
        have nothing := counted.timed (by
          simpa [SourceDescriptor.isTimed] using timed)
        refine ⟨rfl, nothing.symm, ?_⟩
        rw [counted.exact, nothing]
        rfl
  | _ => exact accounted.others rfl rfl rfl rfl rfl rfl rfl

theorem accounted_start
    (config : Config)
    (events : Bool) : Accounted (.start config events) where
  retained := rfl
  sources := fun _ _ found => nomatch found
  limit := Nat.zero_le _
  queued := rfl
  numbered := fun _ present => absurd present (OrderedMap.not_mem_empty _)
  exact := rfl

theorem reachable_accounted
    {config : Config}
    {guard : Presenter → PresenterEvent → Prop}
    {presenter : Presenter}
    (reachable : (presenterMachine protocol config).Reachable guard presenter) :
    Accounted presenter.shared :=
  reachable_shared protocol (accounted_start config)
    (fun _ _ accounted change => accounted.change change)
    (fun _ _ _ _ accounted _ _ performs => accounted.deed protocol performs)
    reachable

/-- In every run of the presenter the retained and the queued bytes are the
sums over the tables, and they are never cut off. -/
theorem retained_accounted
    {config : Config}
    {presenter : Presenter}
    (reachable : (presenterMachine protocol config).Reachable
      (fun _ _ => True) presenter) :
    Accounted presenter.shared :=
  reachable_accounted protocol reachable

/-- Thread 1 attaches to image 3 and receives its body. -/
def receivingImage :
    List PresenterEvent :=
  [.accept 1 (some .blob),
    .presentTicket 1 9,
    .attach 1,
    .markChannel 1,
    .receiveMedia 1 3
      { sequence := 1
        length := 100
        body := .image ⟨0, fun _ => some (5, 5)⟩ },
    .ingest 1 0 true]

/-- The accounts of a presenter that retains one image. -/
theorem retained_accounted_image :
    let protocol := wellFormedProtocol fun _ _ => true
    ∃ presenter,
      runEvents protocol (fun _ _ => true)
          (connecting ++ creatingImage ++ receivingImage) = some presenter ∧
        presenter.shared.retainedBytes = 100 ∧
        Accounted presenter.shared := by
  intro protocol
  have retains : (runEvents protocol (fun _ _ => true)
      (connecting ++ creatingImage ++ receivingImage)).map
        (fun presenter => presenter.shared.retainedBytes) = some 100 := by
    decide +kernel
  obtain ⟨presenter, followed, bytes⟩ := Option.map_eq_some_iff.mp retains
  exact ⟨presenter, followed, bytes, retained_accounted protocol
    (reachable_runEvents protocol (fun _ _ _ => trivial) _ followed)⟩

end Media
end Vvmux
