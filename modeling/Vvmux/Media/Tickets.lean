import Vvmux.Media.Steps

/-!
# Media tickets

A ticket is made with a source and is used up by the channel that presents it.
Between the two the source may go: a producer that leaves takes its tickets
along, and `DESTROY_SOURCE` does not.
-/

namespace Vvmux
namespace Media

open Library

variable (protocol : Protocol)

/-- A ticket is for the instance of its source that it was issued with, which
has the ticket's kind and maximum body and was not attached yet. -/
def Issued (state : State) (ticket : Ticket) : Prop :=
  ∃ source, state.sources.find? ticket.source = some source ∧
    source.serial = ticket.serial ∧ source.descriptor.kind = ticket.kind ∧
    (sourceMaximum protocol source.descriptor source.rasterUpdate).toOption.map
      UInt32.toNat = some ticket.maximumBody ∧
    source.attachedWith = []

/-- The tickets authorise only the sources they were issued for. -/
structure TicketsAuthorise (state : State) : Prop where
  issued : ∀ token ticket, state.tickets.find? token = some ticket →
    Issued protocol state ticket
  few : state.tickets.size ≤ state.sources.size
  once : ∀ key source, state.sources.find? key = some source →
    source.attachedWith.length ≤ 1

/-! ## Tickets on their way -/

/-- The ticket a thread is about to attach with. -/
def Presenter.taken (presenter : Presenter) (thread : Nat) : Option Ticket :=
  (presenter.phase? thread).bind Phase.ticket?

/-- A ticket for a source is in the table, or with a thread. -/
def Presenter.outstanding (presenter : Presenter) (key : SourceKey) : Bool :=
  (presenter.shared.tickets.entries.any fun entry =>
    entry.2.source == key) ||
  presenter.threads.keys.any fun thread =>
    (presenter.taken thread).any fun ticket => ticket.source == key

/-- A source is created for a producer that is still registered, and destroyed
only when its ticket was used. -/
def keepsTickets (presenter : Presenter) (event : PresenterEvent) : Bool :=
  match presenter.deed? protocol event with
  | some (.createSource producerId _ _ _) =>
      decide (producerId ∈ presenter.shared.producers)
  | some (.destroySource key) =>
      decide (key ∉ presenter.shared.sources) || !presenter.outstanding key
  | _ => true

/-! ## The invariant -/

/-- The invariant: every outstanding ticket is the only one for its source,
which is there in the table's case; a ticket that a thread took may have lost
its source together with its producer. -/
structure TicketsSound
    (state : State)
    (taken : Nat → Option Ticket) : Prop where
  issued : ∀ token ticket, state.tickets.find? token = some ticket →
    Issued protocol state ticket ∧ ticket.source.producer ∈ state.producers
  distinct : ∀ one two first second,
    state.tickets.find? one = some first →
      state.tickets.find? two = some second →
        first.source = second.source → one = two
  takenIssued : ∀ thread ticket, taken thread = some ticket →
    Issued protocol state ticket ∨
      (ticket.source ∉ state.sources ∧
        ticket.source.producer ∉ state.producers)
  takenNumbered : ∀ thread ticket, taken thread = some ticket →
    ticket.source.producer ≤ state.nextProducer
  takenApart : ∀ thread ticket token other, taken thread = some ticket →
    state.tickets.find? token = some other → other.source ≠ ticket.source
  takenDistinct : ∀ one two first second, taken one = some first →
    taken two = some second → first.source = second.source → one = two
  once : ∀ key source, state.sources.find? key = some source →
    source.attachedWith.length ≤ 1
  numbered : ∀ producerId, producerId ∈ state.producers →
    producerId ≤ state.nextProducer

variable {state : State} {key : SourceKey} {thread token : Nat}
  {presenter after : Presenter} {event : PresenterEvent}

/-- The tickets in the table name as many sources. -/
theorem TicketsSound.few
    {taken : Nat → Option Ticket}
    (sound : TicketsSound protocol state taken) :
    state.tickets.size ≤ state.sources.size := by
  have found : ∀ entry ∈ state.tickets.entries,
      state.tickets.find? entry.1 = some entry.2 := fun entry present =>
    OrderedMap.find?_eq_some_iff.mpr present
  have distinct : (state.tickets.entries.map
      fun entry => entry.2.source).Nodup := by
    apply List.Nodup.map_on
    · intro one isOne two isTwo same
      have tokens := sound.distinct one.1 two.1 one.2 two.2 (found one isOne)
        (found two isTwo) same
      have values := found one isOne
      rw [tokens, found two isTwo] at values
      exact Prod.ext tokens (Option.some.inj values).symm
    · exact List.Nodup.of_map Prod.fst state.tickets.keys_nodup
  have contained : state.tickets.entries.map
      (fun entry => entry.2.source) ⊆ state.sources.keys := by
    intro key present
    obtain ⟨entry, isEntry, rfl⟩ := List.mem_map.mp present
    obtain ⟨⟨source, there, -⟩, -⟩ :=
      sound.issued entry.1 entry.2 (found entry isEntry)
    exact OrderedMap.mem_of_find?_eq_some there
  have bound := (List.subperm_of_subset distinct contained).length_le
  rw [List.length_map] at bound
  rw [OrderedMap.size_eq_keys_length state.sources]
  exact bound

theorem TicketsSound.authorise
    {taken : Nat → Option Ticket}
    (sound : TicketsSound protocol state taken) :
    TicketsAuthorise protocol state where
  issued := fun token ticket found => (sound.issued token ticket found).1
  few := sound.few
  once := sound.once

/-- Threads may lose their tickets. -/
theorem TicketsSound.fewer
    {before after : Nat → Option Ticket}
    (sound : TicketsSound protocol state before)
    (fewer : ∀ thread ticket, after thread = some ticket →
      before thread = some ticket) :
    TicketsSound protocol state after where
  issued := sound.issued
  distinct := sound.distinct
  takenIssued := fun thread ticket holds =>
    sound.takenIssued thread ticket (fewer thread ticket holds)
  takenNumbered := fun thread ticket holds =>
    sound.takenNumbered thread ticket (fewer thread ticket holds)
  takenApart := fun thread ticket token other holds =>
    sound.takenApart thread ticket token other (fewer thread ticket holds)
  takenDistinct := fun one two first second holds also =>
    sound.takenDistinct one two first second (fewer one first holds)
      (fewer two second also)
  once := sound.once
  numbered := sound.numbered

/-! ## Changes -/

/-- A source that keeps what its ticket says. -/
structure Source.KeepsTicket (before after : Source) : Prop where
  serial : after.serial = before.serial
  descriptor : after.descriptor = before.descriptor
  rasterUpdate : after.rasterUpdate = before.rasterUpdate
  attachedWith : after.attachedWith = before.attachedWith

theorem Source.Steady.keepsTicket
    {before after : Source}
    (steady : before.Steady after) : before.KeepsTicket after :=
  { steady with }

variable {ticket : Ticket}

/-- A ticket stays issued while its source keeps what it says. -/
theorem Issued.keep
    {before after : State}
    (issued : Issued protocol before ticket)
    (keeps : ∀ source, before.sources.find? ticket.source = some source →
      ∃ later, after.sources.find? ticket.source = some later ∧
        source.KeepsTicket later) :
    Issued protocol after ticket := by
  obtain ⟨source, found, serial, kind, maximum, unattached⟩ := issued
  obtain ⟨later, there, same⟩ := keeps source found
  refine ⟨later, there, ?_, ?_, ?_, ?_⟩
  · rw [same.serial, serial]
  · rw [same.descriptor, kind]
  · rw [same.descriptor, same.rasterUpdate, maximum]
  · rw [same.attachedWith, unattached]

/-- A source that stays is steady. -/
theorem SourcesKept.stays_steady
    {before after : State}
    (kept : SourcesKept before after)
    {source : Source}
    (found : before.sources.find? key = some source)
    (stays : key ∈ after.sources) :
    ∃ later, after.sources.find? key = some later ∧ source.Steady later := by
  obtain ⟨later, there⟩ := Option.isSome_iff_exists.mp
    ((OrderedMap.find?_isSome_iff _ _).mpr stays)
  obtain ⟨old, isOld, steady⟩ := kept.origin key later there
  rw [found] at isOld
  rw [Option.some.inj isOld]
  exact ⟨later, there, steady⟩

/-- No orphan is of a registered producer. -/
theorem not_orphaned_of_registered
    (registered : key.producer ∈ state.producers) :
    state.orphaned key = false := by
  simp [State.orphaned, registered]

/-- A producer that was not registered and is not new does not come back. -/
theorem ProducersKept.not_mem
    {before after : State}
    (kept : ProducersKept before after)
    {producerId : ProducerId}
    (absent : producerId ∉ before.producers)
    (old : producerId ≤ before.nextProducer) :
    producerId ∉ after.producers := by
  intro present
  obtain ⟨producer, found⟩ := Option.isSome_iff_exists.mp
    ((OrderedMap.find?_isSome_iff _ _).mpr present)
  rcases kept.origin producerId producer found with
    ⟨earlier, there, -⟩ | ⟨new, -⟩
  · exact absent (OrderedMap.mem_of_find?_eq_some there)
  · rw [new] at old
    exact Nat.not_succ_le_self _ old

theorem ProducersKept.numbered
    {before after : State}
    (kept : ProducersKept before after)
    (numbered : ∀ producerId, producerId ∈ before.producers →
      producerId ≤ before.nextProducer)
    (producerId : ProducerId)
    (present : producerId ∈ after.producers) :
    producerId ≤ after.nextProducer := by
  obtain ⟨producer, found⟩ := Option.isSome_iff_exists.mp
    ((OrderedMap.find?_isSome_iff _ _).mpr present)
  rcases kept.origin producerId producer found with
    ⟨earlier, there, -⟩ | ⟨new, counter, -⟩
  · exact (numbered producerId
      (OrderedMap.mem_of_find?_eq_some there)).trans kept.counter
  · exact Nat.le_of_eq (new.trans counter.symm)

theorem TicketsSound.change
    {before after : State}
    {taken : Nat → Option Ticket}
    (sound : TicketsSound protocol before taken)
    (change : Change before after) : TicketsSound protocol after taken := by
  have sources := change.sourcesKept
  have producers := change.producersKept
  constructor
  case issued =>
    intro token ticket found
    obtain ⟨there, stays⟩ := change.ticket found
    obtain ⟨issued, registered⟩ := sound.issued token ticket there
    refine ⟨issued.keep protocol fun source isSource => ?_, stays registered⟩
    obtain ⟨later, isLater, steady⟩ := sources.stays_steady isSource
      (sources.stays _ (OrderedMap.mem_of_find?_eq_some isSource)
        (not_orphaned_of_registered registered))
    exact ⟨later, isLater, steady.keepsTicket⟩
  case distinct =>
    intro one two first second foundOne foundTwo
    exact sound.distinct one two first second (change.ticket foundOne).1
      (change.ticket foundTwo).1
  case takenIssued =>
    intro thread ticket holds
    have numbered := sound.takenNumbered thread ticket holds
    rcases sound.takenIssued thread ticket holds with issued | ⟨gone, unregistered⟩
    · by_cases stays : ticket.source ∈ after.sources
      · refine .inl (issued.keep protocol fun source isSource => ?_)
        obtain ⟨later, isLater, steady⟩ := sources.stays_steady isSource stays
        exact ⟨later, isLater, steady.keepsTicket⟩
      · -- Only an orphan goes, so its producer has gone before.
        obtain ⟨source, isSource, -⟩ := issued
        have orphaned : before.orphaned ticket.source = true := by
          by_contra sheltered
          exact stays (sources.stays _
            (OrderedMap.mem_of_find?_eq_some isSource)
            (Bool.eq_false_iff.mpr sheltered))
        have unregistered : ticket.source.producer ∉ before.producers := by
          intro registered
          rw [not_orphaned_of_registered registered] at orphaned
          cases orphaned
        exact .inr ⟨stays, producers.not_mem unregistered numbered⟩
    · refine .inr ⟨fun present => ?_, producers.not_mem unregistered numbered⟩
      obtain ⟨source, found⟩ := Option.isSome_iff_exists.mp
        ((OrderedMap.find?_isSome_iff _ _).mpr present)
      obtain ⟨old, there, -⟩ := sources.origin _ source found
      exact gone (OrderedMap.mem_of_find?_eq_some there)
  case takenNumbered =>
    exact fun thread ticket holds =>
      (sound.takenNumbered thread ticket holds).trans producers.counter
  case takenApart =>
    exact fun thread ticket token other holds found =>
      sound.takenApart thread ticket token other holds (change.ticket found).1
  case takenDistinct => exact sound.takenDistinct
  case once =>
    intro key source found
    obtain ⟨old, there, steady⟩ := sources.origin key source found
    rw [steady.attachedWith]
    exact sound.once key old there
  case numbered => exact producers.numbered sound.numbered

theorem TicketsSound.changes
    {before after : State}
    {taken : Nat → Option Ticket}
    (sound : TicketsSound protocol before taken)
    (changes : Changes before after) : TicketsSound protocol after taken := by
  induction changes with
  | refl => exact sound
  | tail _ change ih =>
      exact ih.change protocol change

/-! ## Deeds -/

theorem TicketsSound.updateSource
    {taken : Nat → Option Ticket}
    (sound : TicketsSound protocol state taken)
    (key : SourceKey)
    (change : Source → Source)
    (keeps : ∀ source : Source, source.KeepsTicket (change source)) :
    TicketsSound protocol (state.updateSource key change) taken := by
  have refl : ∀ source : Source, source.KeepsTicket source :=
    fun _ => ⟨rfl, rfl, rfl, rfl⟩
  have related := OrderedMap.related_modify refl state.sources key change
    fun source _ => keeps source
  constructor
  case issued =>
    intro token ticket found
    obtain ⟨issued, registered⟩ := sound.issued token ticket found
    exact ⟨issued.keep protocol fun source isSource =>
      related.exists_after isSource, registered⟩
  case distinct => exact sound.distinct
  case takenIssued =>
    intro thread ticket holds
    rcases sound.takenIssued thread ticket holds with
      issued | ⟨gone, unregistered⟩
    · exact .inl (issued.keep protocol fun source isSource =>
        related.exists_after isSource)
    · exact .inr ⟨fun present => gone ((related.mem_iff _).mp present),
        unregistered⟩
  case takenNumbered => exact sound.takenNumbered
  case takenApart => exact sound.takenApart
  case takenDistinct => exact sound.takenDistinct
  case once =>
    intro query source found
    obtain ⟨old, there, same⟩ := related.exists_before found
    rw [same.attachedWith]
    exact sound.once query old there
  case numbered => exact sound.numbered

/-- A creation passes its checks with the largest body of its source. -/
theorem validate_maximum
    {creation : SourceCreation}
    {maximum : UInt32}
    (valid : creation.validate protocol = .ok maximum) :
    sourceMaximum protocol creation.descriptor creation.rasterUpdate =
      .ok maximum := by
  unfold SourceCreation.validate at valid
  split at valid
  · cases valid
  · split at valid
    · cases valid
    · split at valid
      · cases valid
      · exact valid

section

variable {taken : Nat → Option Ticket}
  (sound : TicketsSound protocol state taken)
include sound

/-- An outstanding ticket of a registered producer has its source. -/
theorem TicketsSound.taken_mem
    (holds : taken thread = some ticket)
    (registered : ticket.source.producer ∈ state.producers) :
    ticket.source ∈ state.sources := by
  rcases sound.takenIssued thread ticket holds with
    ⟨source, found, -⟩ | ⟨-, unregistered⟩
  · exact OrderedMap.mem_of_find?_eq_some found
  · exact absurd registered unregistered

theorem TicketsSound.createSource
    (producerId : ProducerId)
    (creation : SourceCreation)
    (maximum : UInt32)
    (token now : Nat)
    (valid : creation.validate protocol = .ok maximum)
    (fresh : creation.key producerId ∉ state.sources)
    (registered : producerId ∈ state.producers) :
    TicketsSound protocol
      (state.enterSource (creation.key producerId)
        (creation.source producerId maximum state.created now) token
        { source := creation.key producerId
          kind := creation.descriptor.kind
          maximumBody := maximum.toNat
          serial := state.created })
      taken := by
  have issuedElsewhere : ∀ ticket, Issued protocol state ticket →
      ticket.source ≠ creation.key producerId := by
    rintro ticket ⟨source, found, -⟩ same
    rw [same] at found
    exact fresh (OrderedMap.mem_of_find?_eq_some found)
  have keep : ∀ ticket, Issued protocol state ticket →
      Issued protocol
        (state.enterSource (creation.key producerId)
          (creation.source producerId maximum state.created now) token
          { source := creation.key producerId
            kind := creation.descriptor.kind
            maximumBody := maximum.toNat
            serial := state.created }) ticket := by
    intro ticket issued
    refine issued.keep protocol fun source isSource => ⟨source, ?_,
      ⟨rfl, rfl, rfl, rfl⟩⟩
    simp only [State.enterSource, OrderedMap.find?_insert,
      if_neg (issuedElsewhere ticket issued), isSource]
  have takenElsewhere : ∀ thread ticket, taken thread = some ticket →
      ticket.source ≠ creation.key producerId := by
    intro thread ticket holds same
    refine fresh ?_
    rw [← same]
    apply sound.taken_mem protocol holds
    rw [same]
    exact registered
  constructor
  case issued =>
    intro query ticket found
    simp only [State.enterSource, OrderedMap.find?_insert] at found
    split at found
    · cases found
      refine ⟨⟨_, OrderedMap.find?_insert_self .., rfl, rfl, ?_, rfl⟩,
        registered⟩
      exact congrArg (fun result => (Except.toOption result).map UInt32.toNat)
        (validate_maximum protocol valid)
    · obtain ⟨issued, known⟩ := sound.issued query ticket found
      exact ⟨keep ticket issued, known⟩
  case distinct =>
    intro one two first second foundOne foundTwo same
    simp only [State.enterSource, OrderedMap.find?_insert] at foundOne foundTwo
    split at foundOne
    · rename_i isOne
      split at foundTwo
      · rename_i isTwo
        rw [isOne, isTwo]
      · cases foundOne
        have issued := (sound.issued two second foundTwo).1
        exact absurd same.symm (issuedElsewhere second issued)
    · split at foundTwo
      · cases foundTwo
        have issued := (sound.issued one first foundOne).1
        exact absurd same (issuedElsewhere first issued)
      · exact sound.distinct one two first second foundOne foundTwo same
  case takenIssued =>
    intro thread ticket holds
    rcases sound.takenIssued thread ticket holds with
      issued | ⟨gone, unregistered⟩
    · exact .inl (keep ticket issued)
    · refine .inr ⟨fun present => ?_, unregistered⟩
      rcases (OrderedMap.mem_insert _ _ _ _).mp present with new | there
      · exact takenElsewhere thread ticket holds new
      · exact gone there
  case takenNumbered => exact sound.takenNumbered
  case takenApart =>
    intro thread ticket query other holds found
    simp only [State.enterSource, OrderedMap.find?_insert] at found
    split at found
    · cases found
      exact (takenElsewhere thread ticket holds).symm
    · exact sound.takenApart thread ticket query other holds found
  case takenDistinct => exact sound.takenDistinct
  case once =>
    intro key source found
    simp only [State.enterSource, OrderedMap.find?_insert] at found
    split at found
    · cases found
      exact Nat.zero_le _
    · exact sound.once key source found
  case numbered => exact sound.numbered

/-- A source that no outstanding ticket names goes. -/
theorem TicketsSound.destroySource
    (key : SourceKey)
    (source : Source)
    (nodes : Nodes)
    (unused : ∀ token ticket, state.tickets.find? token = some ticket →
      ticket.source ≠ key)
    (idle : ∀ thread ticket, taken thread = some ticket →
      ticket.source ≠ key) :
    TicketsSound protocol
      { state.dropSource key source with nodes := nodes } taken := by
  have keep : ∀ ticket, Issued protocol state ticket → ticket.source ≠ key →
      Issued protocol { state.dropSource key source with nodes := nodes }
        ticket := by
    intro ticket issued elsewhere
    refine issued.keep protocol fun kept isKept => ⟨kept, ?_,
      ⟨rfl, rfl, rfl, rfl⟩⟩
    simp only [State.dropSource, State.releaseRetained,
      OrderedMap.find?_erase, if_neg elsewhere, isKept]
  constructor
  case issued =>
    intro token ticket found
    obtain ⟨issued, registered⟩ := sound.issued token ticket found
    exact ⟨keep ticket issued (unused token ticket found), registered⟩
  case distinct => exact sound.distinct
  case takenIssued =>
    intro thread ticket holds
    rcases sound.takenIssued thread ticket holds with
      issued | ⟨gone, unregistered⟩
    · exact .inl (keep ticket issued (idle thread ticket holds))
    · refine .inr ⟨fun present => gone ?_, unregistered⟩
      exact ((OrderedMap.mem_erase _ _ _).mp present).1
  case takenNumbered => exact sound.takenNumbered
  case takenApart => exact sound.takenApart
  case takenDistinct => exact sound.takenDistinct
  case once =>
    intro query other found
    simp only [State.dropSource, State.releaseRetained,
      OrderedMap.find?_erase] at found
    split at found
    · cases found
    · exact sound.once query other found
  case numbered => exact sound.numbered

/-- A ticket leaves the table. -/
theorem TicketsSound.erase
    (token : Nat) :
    TicketsSound protocol
      { state with tickets := state.tickets.erase token } taken := by
  have before : ∀ query ticket,
      (state.tickets.erase token).find? query = some ticket →
        state.tickets.find? query = some ticket := by
    intro query ticket found
    rw [OrderedMap.find?_erase] at found
    split at found
    · cases found
    · exact found
  constructor
  case issued =>
    exact fun query ticket found =>
      sound.issued query ticket (before query ticket found)
  case distinct =>
    exact fun one two first second foundOne foundTwo =>
      sound.distinct one two first second (before one first foundOne)
        (before two second foundTwo)
  case takenIssued => exact sound.takenIssued
  case takenNumbered => exact sound.takenNumbered
  case takenApart =>
    exact fun thread ticket query other holds found =>
      sound.takenApart thread ticket query other holds
        (before query other found)
  case takenDistinct => exact sound.takenDistinct
  case once => exact sound.once
  case numbered => exact sound.numbered

/-- A thread takes a ticket out of the table. -/
theorem TicketsSound.take
    (found : state.tickets.find? token = some ticket)
    (thread : Nat) :
    TicketsSound protocol
      { state with tickets := state.tickets.erase token }
      (Function.update taken thread (some ticket)) := by
  obtain ⟨issued, registered⟩ := sound.issued token ticket found
  have erased := sound.erase protocol token
  constructor
  case issued => exact erased.issued
  case distinct => exact erased.distinct
  case takenIssued =>
    intro other held holds
    rw [Function.update_apply] at holds
    split at holds
    · cases holds
      exact .inl issued
    · exact sound.takenIssued other held holds
  case takenNumbered =>
    intro other held holds
    rw [Function.update_apply] at holds
    split at holds
    · cases holds
      exact sound.numbered _ registered
    · exact sound.takenNumbered other held holds
  case takenApart =>
    intro other held query remaining holds there
    rw [Function.update_apply] at holds
    split at holds
    · cases holds
      simp only [OrderedMap.find?_erase] at there
      split at there
      · cases there
      · rename_i different
        exact fun same => different
          (sound.distinct query token remaining ticket there found same)
    · exact erased.takenApart other held query remaining holds there
  case takenDistinct =>
    intro one two first second holdsOne holdsTwo same
    rw [Function.update_apply] at holdsOne holdsTwo
    split at holdsOne
    · rename_i isOne
      split at holdsTwo
      · rename_i isTwo
        rw [isOne, isTwo]
      · cases holdsOne
        exact absurd same
          (sound.takenApart two second token ticket holdsTwo found)
    · split at holdsTwo
      · cases holdsTwo
        exact absurd same.symm
          (sound.takenApart one first token ticket holdsOne found)
      · exact sound.takenDistinct one two first second holdsOne holdsTwo same
  case once => exact sound.once
  case numbered => exact sound.numbered

/-- A thread attaches with its ticket. -/
theorem TicketsSound.attach
    (token : Nat)
    (holds : taken thread = some ticket)
    (present : ticket.source ∈ state.sources) :
    TicketsSound protocol
      (state.updateSource ticket.source fun source => source.attach token)
      (Function.update taken thread none) := by
  have unattached : ∀ source,
      state.sources.find? ticket.source = some source →
        source.attachedWith = [] := by
    intro source found
    rcases sound.takenIssued thread ticket holds with
      ⟨issued, there, -, -, -, unattached⟩ | ⟨gone, -⟩
    · rw [there] at found
      rw [← Option.some.inj found]
      exact unattached
    · exact absurd present gone
  have keep : ∀ other, Issued protocol state other →
      other.source ≠ ticket.source →
      Issued protocol
        (state.updateSource ticket.source fun source => source.attach token)
        other := by
    intro other issued elsewhere
    refine issued.keep protocol fun kept isKept => ⟨kept, ?_,
      ⟨rfl, rfl, rfl, rfl⟩⟩
    simp only [State.updateSource, OrderedMap.find?_modify,
      if_neg elsewhere, isKept]
  have before : ∀ other held,
      Function.update taken thread none other = some held →
        taken other = some held ∧ other ≠ thread := by
    intro other held updated
    rw [Function.update_apply] at updated
    split at updated
    · cases updated
    · rename_i different
      exact ⟨updated, different⟩
  constructor
  case issued =>
    intro query other found
    obtain ⟨issued, registered⟩ := sound.issued query other found
    exact ⟨keep other issued
      (sound.takenApart thread ticket query other holds found), registered⟩
  case distinct => exact sound.distinct
  case takenIssued =>
    intro other held updated
    obtain ⟨alsoHolds, different⟩ := before other held updated
    rcases sound.takenIssued other held alsoHolds with
      issued | ⟨gone, unregistered⟩
    · exact .inl (keep held issued fun same => different
        (sound.takenDistinct other thread held ticket alsoHolds holds same))
    · refine .inr ⟨fun there => gone ?_, unregistered⟩
      exact (OrderedMap.mem_modify _ _ _ _).mp there
  case takenNumbered =>
    exact fun other held updated =>
      sound.takenNumbered other held (before other held updated).1
  case takenApart =>
    exact fun other held query remaining updated =>
      sound.takenApart other held query remaining (before other held updated).1
  case takenDistinct =>
    exact fun one two first second updatedOne updatedTwo =>
      sound.takenDistinct one two first second (before one first updatedOne).1
        (before two second updatedTwo).1
  case once =>
    intro key source found
    simp only [State.updateSource, OrderedMap.find?_modify] at found
    split at found
    · rename_i here
      rw [here] at found
      obtain ⟨old, there, rfl⟩ := Option.map_eq_some_iff.mp found
      simp [Source.attach, unattached old there]
    · exact sound.once key source found
  case numbered => exact sound.numbered

end

/-! ## Threads -/

/-- Threads hold at most the tickets they held. -/
def TakesNone (before after : Presenter) : Prop :=
  ∀ thread ticket, after.taken thread = some ticket →
    before.taken thread = some ticket

theorem taken_move
    (presenter : Presenter)
    (thread query : Nat)
    (phase : Phase) :
    (presenter.move thread phase).taken query =
      if query = thread then
        (presenter.phase? thread).bind fun _ => phase.ticket?
      else presenter.taken query := by
  unfold Presenter.taken Presenter.move Presenter.phase?
  rw [OrderedMap.find?_modify]
  split
  · rename_i here
    rw [here]
    cases presenter.threads.find? thread <;> rfl
  · rfl

/-- A thread goes on without a ticket. -/
theorem takesNone_move
    (presenter : Presenter)
    (thread : Nat)
    {phase : Phase}
    (without : phase.ticket? = none) :
    TakesNone presenter (presenter.move thread phase) := by
  intro query ticket holds
  rw [taken_move] at holds
  split at holds
  · rw [without] at holds
    obtain ⟨old, -, impossible⟩ := Option.bind_eq_some_iff.mp holds
    cases impossible
  · exact holds

/-- A step that presents no ticket takes none. -/
theorem takesNone_step
    (presents : ∀ thread token, event ≠ .presentTicket thread token)
    (stepped : presenterStep protocol presenter event = some after) :
    TakesNone presenter after := by
  have still (same : after.threads = presenter.threads) :
      TakesNone presenter after := by
    intro query ticket holds
    unfold Presenter.taken at holds
    rwa [Presenter.phase?_congr same] at holds
  cases advance_of_step protocol stepped with
  | calls _ state _ same => exact still (same ▸ rfl)
  | turns _ thread _ new _ _ _ moved _ without =>
      have moves := takesNone_move presenter thread (without (presents thread))
      intro query ticket holds
      unfold Presenter.taken at holds
      rw [Presenter.phase?_congr moved] at holds
      exact moves query ticket holds
  | starts thread connection channel _ _ inserted =>
      intro query ticket holds
      unfold Presenter.taken at holds
      rw [Presenter.phase?_insert inserted] at holds
      split at holds
      · cases channel <;> cases holds
      · exact holds
  | stops thread _ _ _ erased =>
      intro query ticket holds
      unfold Presenter.taken at holds
      rw [Presenter.phase?_erase erased] at holds
      split at holds
      · cases holds
      · exact holds
  | stays _ _ same | applies _ _ _ _ same | answers _ _ _ _ _ same
  | expires _ _ _ _ _ same => exact still same

/-! ## Runs -/

/-- The invariant of a presenter. -/
def Presenter.TicketsSound (presenter : Presenter) : Prop :=
  Media.TicketsSound protocol presenter.shared presenter.taken

/-- A source without an outstanding ticket, in the terms of the invariant. -/
theorem outstanding_eq_false
    (unused : presenter.outstanding key = false) :
    (∀ token ticket, presenter.shared.tickets.find? token = some ticket →
      ticket.source ≠ key) ∧
    ∀ thread ticket, presenter.taken thread = some ticket →
      ticket.source ≠ key := by
  unfold Presenter.outstanding at unused
  simp only [Bool.or_eq_false_iff, List.any_eq_false, beq_iff_eq] at unused
  refine ⟨fun token ticket found => ?_, fun thread ticket holds same => ?_⟩
  · exact unused.1 (token, ticket) (OrderedMap.find?_eq_some_iff.mp found)
  · have present : thread ∈ presenter.threads.keys := by
      obtain ⟨phase, there, -⟩ := Option.bind_eq_some_iff.mp holds
      obtain ⟨entry, found, -⟩ := Option.map_eq_some_iff.mp there
      exact OrderedMap.mem_of_find?_eq_some found
    have idle := unused.2 thread present
    simp [holds, same] at idle

/-- Deeds but attaching keep the invariant where they keep tickets. -/
theorem TicketsSound.deed
    {deed : Deed}
    {after : State}
    (sound : presenter.TicketsSound protocol)
    (keeps : keepsTickets protocol presenter event = true)
    (isDeed : presenter.deed? protocol event = some deed)
    (performs : Performs protocol presenter.shared deed after)
    (attaches : ∀ token ticket, deed ≠ .attachChannel token ticket) :
    Media.TicketsSound protocol after presenter.taken := by
  unfold keepsTickets at keeps
  rw [isDeed] at keeps
  unfold Presenter.TicketsSound at sound
  cases performs with
  | insertMetrics pane display | beginTransaction key =>
      exact { sound with }
  | registerAnchor producerId producer marker place found accepted =>
      have same : ∀ query,
          query ∈ (presenter.shared.registerAnchor producerId marker.anchorId
            place).producers ↔ query ∈ presenter.shared.producers :=
        OrderedMap.mem_modify _ _ _
      exact
        { sound with
          issued := fun token ticket there =>
            ⟨(sound.issued token ticket there).1,
              (same _).mpr (sound.issued token ticket there).2⟩
          takenIssued := by
            intro thread ticket holds
            rcases sound.takenIssued thread ticket holds with
              issued | ⟨gone, unregistered⟩
            · exact .inl issued
            · exact .inr ⟨gone, fun present =>
                unregistered ((same _).mp present)⟩
          numbered := fun query present =>
            sound.numbered query ((same query).mp present) }
  | createSource producerId creation maximum token now valid few fits fresh =>
      exact sound.createSource protocol producerId creation maximum token now
        valid fresh (of_decide_eq_true keeps)
  | destroySource key source found =>
      have present : key ∈ presenter.shared.sources :=
        OrderedMap.mem_of_find?_eq_some found
      simp only [present, not_true_eq_false, decide_false, Bool.false_or,
        Bool.not_eq_true'] at keeps
      obtain ⟨unused, idle⟩ := outstanding_eq_false keeps
      exact sound.destroySource protocol key source _ unused idle
  | presentTicket token ticket found => exact sound.erase protocol token
  | attachChannel token ticket source found =>
      exact absurd rfl (attaches token ticket)
  | flushSource key source epoch causation found =>
      exact sound.updateSource protocol key _ fun _ => ⟨rfl, rfl, rfl, rfl⟩
  | endSource key source epoch causation found =>
      refine sound.updateSource protocol key _ fun source => ?_
      unfold Source.finished
      simp only
      split
      · exact ⟨rfl, rfl, rfl, rfl⟩
      · exact ⟨rfl, rfl, rfl, rfl⟩

/-- What presenting a ticket gives. -/
theorem takeTicket_found
    (found : state.tickets.find? token = some ticket) :
    (takeTicket state token).1 =
        { state with tickets := state.tickets.erase token } ∧
      ∀ held pane, (takeTicket state token).2 = .ok (held, pane) →
        held = ticket := by
  unfold takeTicket
  rw [found]
  simp only
  split
  · exact ⟨rfl, fun held pane granted => nomatch granted⟩
  · refine ⟨rfl, fun held pane granted => ?_⟩
    cases granted
    rfl

/-- A channel presents its ticket. -/
theorem ticketsSound_presentTicket
    (sound : presenter.TicketsSound protocol)
    (stepped : presenterStep protocol presenter (.presentTicket thread token) =
      some after) :
    after.TicketsSound protocol := by
  unfold Presenter.TicketsSound at sound ⊢
  simp only [presenterStep, sessionStep, controlStep, channelStep, serviceStep,
    Option.map_none, Option.none_or, Option.or_none] at stepped
  have finishes : ∀ state : State,
      TakesNone presenter ((presenter.withShared state).move thread
        .finished) := fun state =>
    takesNone_move (presenter.withShared state) thread rfl
  split at stepped
  · rename_i kind opening
    cases found : presenter.shared.tickets.find? token with
    | none =>
        simp only [takeTicket, found, Option.some.injEq] at stepped
        rw [← stepped]
        exact sound.fewer protocol (finishes _)
    | some ticket =>
        obtain ⟨erased, isTicket⟩ := takeTicket_found found
        rw [erased] at stepped
        split at stepped
        · cases stepped
          exact (sound.erase protocol token).fewer protocol (finishes _)
        · rename_i held pane granted
          split at stepped
          · cases stepped
            exact (sound.erase protocol token).fewer protocol (finishes _)
          · cases stepped
            refine (sound.take protocol found thread).fewer protocol ?_
            intro query other holds
            rw [taken_move] at holds
            rw [Function.update_apply]
            split at holds
            · rename_i here
              rw [if_pos here]
              obtain ⟨old, -, same⟩ := Option.bind_eq_some_iff.mp holds
              rw [← isTicket held pane granted]
              exact same
            · rename_i elsewhere
              rw [if_neg elsewhere]
              exact holds
  · cases stepped

/-- A channel that attaches has used its ticket. -/
theorem attached_idle
    (stepped : presenterStep protocol presenter (.attach thread) =
      some after) :
    after.taken thread = none := by
  simp only [presenterStep, sessionStep, controlStep, channelStep, serviceStep,
    Option.map_none, Option.none_or, Option.or_none] at stepped
  split at stepped
  · split at stepped
    · cases stepped
      rw [taken_move, if_pos rfl]
      exact Option.bind_fun_none _
    · cases stepped
      rw [taken_move, if_pos rfl]
      exact Option.bind_fun_none _
  · cases stepped

/-- A channel attaches. -/
theorem ticketsSound_attach
    (sound : presenter.TicketsSound protocol)
    (stepped : presenterStep protocol presenter (.attach thread) =
      some after) :
    after.TicketsSound protocol := by
  have fewer := takesNone_step protocol
    (fun _ _ same => PresenterEvent.noConfusion same) stepped
  rcases does_presenterStep protocol stepped with
    changes | ⟨deed, middle, isDeed, performs, changes⟩
  · exact (TicketsSound.changes protocol sound changes).fewer protocol fewer
  · cases deedOf protocol isDeed with
    | attach _ token ticket pane ticketed =>
        have holds : presenter.taken thread = some ticket := by
          simp [Presenter.taken, ticketed, Phase.ticket?]
        cases performs with
        | attachChannel _ _ source found =>
            have attached := TicketsSound.attach protocol sound token holds
              (OrderedMap.mem_of_find?_eq_some found)
            refine (attached.changes protocol changes).fewer protocol ?_
            intro query other later
            rw [Function.update_apply]
            split
            · rename_i here
              have moved := attached_idle protocol stepped
              rw [here, moved] at later
              cases later
            · exact fewer query other later

theorem ticketsSound_step
    {before after : Presenter}
    (sound : before.TicketsSound protocol)
    (keeps : keepsTickets protocol before event = true)
    (stepped : presenterStep protocol before event = some after) :
    after.TicketsSound protocol := by
  by_cases presents : ∃ thread token, event = .presentTicket thread token
  · obtain ⟨thread, token, rfl⟩ := presents
    exact ticketsSound_presentTicket protocol sound stepped
  by_cases attaches : ∃ thread, event = .attach thread
  · obtain ⟨thread, rfl⟩ := attaches
    exact ticketsSound_attach protocol sound stepped
  have fewer := takesNone_step protocol
    (fun thread token same => presents ⟨thread, token, same⟩) stepped
  rcases does_presenterStep protocol stepped with
    changes | ⟨deed, middle, isDeed, performs, changes⟩
  · exact (TicketsSound.changes protocol sound changes).fewer protocol fewer
  · have performed := TicketsSound.deed protocol sound keeps isDeed performs (by
      intro token ticket isAttach
      rw [isAttach] at isDeed
      cases deedOf protocol isDeed with
      | perform thread circumstance writable producer record deed busy does =>
          cases recordDeed does
      | attach thread _ _ pane ticketed => exact attaches ⟨thread, rfl⟩)
    exact (performed.changes protocol changes).fewer protocol fewer

theorem ticketsSound_start
    (config : Config)
    (events : Bool) :
    (Presenter.start config events).TicketsSound protocol where
  issued := fun _ _ found => nomatch found
  distinct := fun _ _ _ _ found => nomatch found
  takenIssued := fun _ _ holds => nomatch holds
  takenNumbered := fun _ _ holds => nomatch holds
  takenApart := fun _ _ _ _ holds => nomatch holds
  takenDistinct := fun _ _ _ _ holds => nomatch holds
  once := fun _ _ found => nomatch found
  numbered := fun _ present => absurd present (OrderedMap.not_mem_empty _)

/-- In every run that creates sources for registered producers only and
destroys no source whose ticket is outstanding, tickets authorise only the
sources they were issued for. -/
theorem tickets_authorise
    {config : Config}
    {presenter : Presenter}
    (reachable : (presenterMachine protocol config).Reachable
      (fun presenter event => keepsTickets protocol presenter event = true)
      presenter) :
    TicketsAuthorise protocol presenter.shared := by
  have sound : presenter.TicketsSound protocol := by
    apply reachable.invariant
    · rintro start ⟨events, rfl⟩
      exact ticketsSound_start protocol config events
    · intro before event after holds keeps stepped
      exact ticketsSound_step protocol holds keeps stepped
  exact TicketsSound.authorise protocol sound

/-! ### A source that goes before its ticket -/

/-- A source and its ticket. -/
theorem tickets_authorise_image :
    let protocol := wellFormedProtocol fun _ _ => true
    ∃ presenter,
      runEvents protocol (keepsTickets protocol)
          (connecting ++ creatingImage) = some presenter ∧
        presenter.shared.tickets.size = 1 ∧
        TicketsAuthorise protocol presenter.shared := by
  intro protocol
  have issued : (runEvents protocol (keepsTickets protocol)
      (connecting ++ creatingImage)).map
        (fun presenter => presenter.shared.tickets.size) = some 1 := by
    decide +kernel
  obtain ⟨presenter, followed, one⟩ := Option.map_eq_some_iff.mp issued
  exact ⟨presenter, followed, one, tickets_authorise protocol
    (reachable_runEvents protocol (fun _ _ keeps => keeps) _ followed)⟩

/-- Image 3 is destroyed before its channel attaches: its ticket stays, and
there is no source left. -/
theorem destroyed_source_leaves_ticket :
    let protocol := wellFormedProtocol fun _ _ => true
    ∃ presenter,
      (presenterMachine protocol .standard).Reachable (fun _ _ => True)
          presenter ∧
        presenter.shared.tickets.size = 1 ∧
        presenter.shared.sources.size = 0 ∧
        ¬ TicketsAuthorise protocol presenter.shared := by
  intro protocol
  have leaves : (runEvents protocol (fun _ _ => true)
      (connecting ++ creatingImage ++
        controlling 3 (.destroySource (.ok (plainEnvelope, 3))) 1)).map
          (fun presenter => (presenter.shared.tickets.size,
            presenter.shared.sources.size)) = some (1, 0) := by
    decide +kernel
  obtain ⟨presenter, followed, sizes⟩ := Option.map_eq_some_iff.mp leaves
  obtain ⟨tickets, sources⟩ := Prod.mk.inj sizes
  refine ⟨presenter, reachable_runEvents protocol (fun _ _ _ => trivial) _
    followed, tickets, sources, ?_⟩
  intro authorise
  have few := authorise.few
  omega

end Media
end Vvmux
