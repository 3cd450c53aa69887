import Vvmux.Media.Steps

/-!
# The end of a stream

An `EOS` names the epoch it ends.  A barrier worker looks at the attachment and
at the record sequence of its source before it applies the `EOS`, and not at
the epoch: a `FLUSH` that was processed meanwhile is overtaken.
-/

namespace Vvmux
namespace Media

open Library

variable (protocol : Protocol)

/-- An ended source was ended in an epoch that no `FLUSH` has left behind. -/
def Source.EndsOwnEpoch (source : Source) : Prop :=
  source.ended = true →
    ∃ epoch, source.eosEpoch = some epoch ∧ source.flushEpoch ≤ epoch

/-- No source is ended by an `EOS` from before its latest `FLUSH`. -/
def EndsOwnEpoch (state : State) : Prop :=
  ∀ key source, state.sources.find? key = some source → source.EndsOwnEpoch

/-- An `EOS` that a step applies is not from before the latest `FLUSH` of its
source. -/
def appliesCurrentEos (presenter : Presenter) (event : PresenterEvent) : Bool :=
  match presenter.deed? protocol event with
  | some (.endSource key epoch _) =>
      (presenter.shared.sources.find? key).all fun source =>
        decide (source.flushEpoch ≤ epoch)
  | _ => true

/-! ## The invariant -/

theorem Source.Steady.endsOwnEpoch
    {before after : Source}
    (steady : before.Steady after)
    (ends : before.EndsOwnEpoch) : after.EndsOwnEpoch := by
  intro ended
  rw [steady.ended] at ended
  rw [steady.eosEpoch, steady.flushEpoch]
  exact ends ended

variable {before after state : State} (source : Source) {event : PresenterEvent}
  {key : SourceKey}

theorem EndsOwnEpoch.change
    (ends : EndsOwnEpoch before)
    (change : Change before after) : EndsOwnEpoch after := by
  intro key source found
  obtain ⟨old, there, steady⟩ := change.sourcesKept.origin key source found
  exact steady.endsOwnEpoch (ends key old there)

/-- Rewriting a source to one that ends its own epoch. -/
theorem EndsOwnEpoch.updateSource
    (ends : EndsOwnEpoch state)
    (key : SourceKey)
    (change : Source → Source)
    (rewritten : ∀ source, state.sources.find? key = some source →
      (change source).EndsOwnEpoch) :
    EndsOwnEpoch (state.updateSource key change) := by
  intro query source found
  simp only [State.updateSource, OrderedMap.find?_modify] at found
  split at found
  · rename_i here
    obtain ⟨old, there, rfl⟩ := Option.map_eq_some_iff.mp found
    exact rewritten old (here ▸ there)
  · exact ends query source found

/-- A source that has not ended ends its own epoch. -/
theorem endsOwnEpoch_of_live
    {source : Source}
    (live : source.ended = false) : source.EndsOwnEpoch := by
  intro ended
  rw [live] at ended
  cases ended

variable (epoch : Nat) (causation : Option Nat)

@[simp] theorem ended_finished :
    (source.finished epoch causation).ended = true := by
  unfold Source.finished
  simp only
  split <;> rfl

@[simp] theorem eosEpoch_finished :
    (source.finished epoch causation).eosEpoch = some epoch := by
  unfold Source.finished
  simp only
  split <;> rfl

@[simp] theorem flushEpoch_finished :
    (source.finished epoch causation).flushEpoch = source.flushEpoch := by
  unfold Source.finished
  simp only
  split <;> rfl

/-- A source that an `EOS` ends does so in its own epoch exactly if the `EOS`
is not from before its latest `FLUSH`. -/
theorem endsOwnEpoch_finished :
    (source.finished epoch causation).EndsOwnEpoch ↔
      source.flushEpoch ≤ epoch := by
  simp [Source.EndsOwnEpoch]

theorem EndsOwnEpoch.deed
    {deed : Deed}
    (ends : EndsOwnEpoch before)
    (current : ∀ key epoch causation source,
      deed = .endSource key epoch causation →
        before.sources.find? key = some source → source.flushEpoch ≤ epoch)
    (performs : Performs protocol before deed after) : EndsOwnEpoch after := by
  cases performs with
  | createSource producerId creation maximum token now valid few fits fresh =>
      intro key source found
      simp only [State.enterSource, OrderedMap.find?_insert] at found
      split at found
      · cases found
        exact endsOwnEpoch_of_live rfl
      · exact ends key source found
  | destroySource key source there =>
      intro query other found
      simp only [State.dropSource, State.releaseRetained,
        OrderedMap.find?_erase] at found
      split at found
      · cases found
      · exact ends query other found
  | attachChannel token ticket source found =>
      exact ends.updateSource _ _ fun current here => ends _ current here
  | flushSource key source epoch causation found =>
      exact ends.updateSource _ _ fun current here => endsOwnEpoch_of_live rfl
  | endSource key source epoch causation found =>
      refine ends.updateSource _ _ fun old here => ?_
      rw [endsOwnEpoch_finished]
      exact current key epoch causation old rfl here
  | _ => exact ends

theorem endsOwnEpoch_start
    (config : Config)
    (events : Bool) : EndsOwnEpoch (.start config events) :=
  fun _ _ found => nomatch found

/-- The check of a step, read for its deed. -/
theorem appliesCurrentEos_deed
    {presenter : Presenter}
    {deed : Deed}
    (applies : appliesCurrentEos protocol presenter event = true)
    (isDeed : presenter.deed? protocol event = some deed)
    (key : SourceKey)
    (epoch : Nat)
    (causation : Option Nat)
    (source : Source)
    (ends : deed = .endSource key epoch causation)
    (found : presenter.shared.sources.find? key = some source) :
    source.flushEpoch ≤ epoch := by
  unfold appliesCurrentEos at applies
  rw [isDeed, ends] at applies
  simpa [found] using applies

theorem endsOwnEpoch_step
    {before after : Presenter}
    (ends : EndsOwnEpoch before.shared)
    (applies : appliesCurrentEos protocol before event = true)
    (stepped : presenterStep protocol before event = some after) :
    EndsOwnEpoch after.shared := by
  rcases does_presenterStep protocol stepped with
    changes | ⟨deed, middle, isDeed, performs, changes⟩
  · exact changes.preserve (fun _ _ holds change => holds.change change) ends
  · have performed := ends.deed protocol
      (appliesCurrentEos_deed protocol applies isDeed) performs
    exact changes.preserve (fun _ _ holds change => holds.change change)
      performed

/-! ## The check is needed -/

/-- A source that an `EOS` was applied to, with what follows it. -/
theorem ended_applyInnerEos
    {source : Source}
    (found : state.sources.find? key = some source)
    (epoch : Nat)
    (causation : Option Nat) :
    ∃ ended,
      (applyInnerEos protocol state key epoch causation).1.sources.find? key =
          some ended ∧
        (source.finished epoch causation).Quiet ended :=
  (quiet_applyInnerEos protocol found epoch causation).sources.exists_after
    (find?_updateSource_self found fun source =>
      source.finished epoch causation)

/-- What a stale `EOS` leaves of its source. -/
theorem stale_applyInnerEos
    {source : Source}
    (found : state.sources.find? key = some source)
    {epoch : Nat}
    (stale : epoch < source.flushEpoch)
    (causation : Option Nat) :
    ¬ EndsOwnEpoch (applyInnerEos protocol state key epoch causation).1 := by
  intro ends
  obtain ⟨ended, there, quiet⟩ :=
    ended_applyInnerEos protocol found epoch causation
  obtain ⟨last, isLast, fits⟩ := ends key ended there (by
    rw [quiet.ended]
    exact ended_finished source epoch causation)
  rw [quiet.eosEpoch, eosEpoch_finished] at isLast
  rw [quiet.flushEpoch, flushEpoch_finished] at fits
  cases isLast
  omega

/-- Quiet changes bring no source to its own epoch. -/
theorem EndsOwnEpoch.before_quiet
    (quiet : Quiet before after)
    (ends : EndsOwnEpoch after) : EndsOwnEpoch before := by
  intro key source found isEnded
  obtain ⟨later, there, same⟩ := quiet.sources.exists_after found
  rw [← same.ended] at isEnded
  rw [← same.eosEpoch, ← same.flushEpoch]
  exact ends key later there isEnded

/-- A step that ends a source is one of a control thread or of a worker. -/
theorem endSource_step
    {presenter after : Presenter}
    {epoch : Nat}
    {causation : Option Nat}
    (isDeed : presenter.deed? protocol event =
      some (.endSource key epoch causation))
    (stepped : presenterStep protocol presenter event = some after) :
    Quiet (applyInnerEos protocol presenter.shared key epoch causation).1
      after.shared := by
  cases deedOf protocol isDeed with
  | perform thread circumstance writable producer record deed busy performs =>
      cases recordDeed performs
  | applyEos thread circumstance writable producer key epoch envelope busy =>
      rw [shared_run protocol busy stepped]
      exact quiet_respondTo _ _ _
  | applyBarrier worker barrier accepted =>
      simp only [presenterStep, sessionStep, controlStep, channelStep,
        serviceStep, accepted, Option.map_none, Option.none_or,
        Option.some.injEq] at stepped
      rw [← stepped]
      exact .refl _

/-- A step that applies a stale `EOS` ends its source in a past epoch. -/
theorem stale_step
    {before after : Presenter}
    (stale : appliesCurrentEos protocol before event = false)
    (stepped : presenterStep protocol before event = some after) :
    ¬ EndsOwnEpoch after.shared := by
  unfold appliesCurrentEos at stale
  split at stale
  · rename_i key epoch causation isDeed
    cases found : before.shared.sources.find? key with
    | none =>
        rw [found] at stale
        cases stale
    | some source =>
        rw [found] at stale
        have past : epoch < source.flushEpoch := by
          simpa using stale
        intro ends
        exact stale_applyInnerEos protocol found past causation
          (ends.before_quiet (endSource_step protocol isDeed stepped))
  · cases stale

/-- In every run that applies no `EOS` from before the latest `FLUSH` of its
source, no source is ended by one; and in each of its states the next step
leaves it so exactly if the step applies no such `EOS` either. -/
theorem ends_own_epoch
    {config : Config}
    {presenter : Presenter}
    (reachable : (presenterMachine protocol config).Reachable
      (fun presenter event => appliesCurrentEos protocol presenter event = true)
      presenter) :
    EndsOwnEpoch presenter.shared ∧
      ∀ event after, presenterStep protocol presenter event = some after →
        (EndsOwnEpoch after.shared ↔
          appliesCurrentEos protocol presenter event = true) := by
  have ends : EndsOwnEpoch presenter.shared := by
    apply reachable.invariant
    · rintro start ⟨events, rfl⟩
      exact endsOwnEpoch_start config events
    · intro before event after holds applies stepped
      exact endsOwnEpoch_step protocol holds applies stepped
  refine ⟨ends, fun event after stepped => ⟨fun later => ?_, fun applies => ?_⟩⟩
  · by_contra stale
    exact stale_step protocol (Bool.eq_false_iff.mpr stale) stepped later
  · exact endsOwnEpoch_step protocol ends applies stepped

/-! ### A barrier that is overtaken by a `FLUSH` -/

/-- Producer 1 creates video 4 under ticket 9, and thread 1 attaches to it. -/
def creatingVideo :
    List PresenterEvent :=
  controlling 4
    (.createVideo (.ok
      { envelope := plainEnvelope
        config :=
          { sourceId := 4
            maxAccessUnitBytes := 100
            codec := "h264"
            packetization := "annexb" }
        capturePolicy := 0
        statesPolicy := false
        semanticDescriptor := none
        statesDescriptor := false })) 2 ++
    [.accept 1 (some .video), .presentTicket 1 9, .attach 1, .markChannel 1]

/-- An `EOS` of video 4 for epoch 0 waits for its first media record. -/
def endingVideo :
    List PresenterEvent :=
  controlling 4 (.eos (.ok (plainEnvelope, ⟨4, 0, some ⟨1, 1⟩⟩))) 1

/-- A packet of video 4 is the media record the `EOS` waits for. -/
def receivingPacket (epoch : Nat) : List PresenterEvent :=
  [.receiveMedia 1 4
      { sequence := 1
        length := 60
        body := .video (.ok ⟨1, epoch, 0, true, 20⟩) },
    .ingest 1 0 true]

/-- The worker finds the media record and applies the `EOS`. -/
def applyingBarrier :
    List PresenterEvent :=
  [.look 0, .applyBarrier 0]

/-- Without a `FLUSH` the barrier ends its stream. -/
theorem ends_own_epoch_without_flush :
    let protocol := wellFormedProtocol fun _ _ => true
    ∃ presenter,
      runEvents protocol (appliesCurrentEos protocol)
          (connecting ++ creatingVideo ++ endingVideo ++ receivingPacket 0 ++
            applyingBarrier) = some presenter ∧
        EndsOwnEpoch presenter.shared := by
  intro protocol
  have runs : (runEvents protocol (appliesCurrentEos protocol)
      (connecting ++ creatingVideo ++ endingVideo ++ receivingPacket 0 ++
        applyingBarrier)).isSome = true := by
    decide +kernel
  obtain ⟨presenter, followed⟩ := Option.isSome_iff_exists.mp runs
  exact ⟨presenter, followed, (ends_own_epoch protocol
    (reachable_runEvents protocol (fun _ _ applies => applies) _
      followed)).1⟩

/-- A `FLUSH` to epoch 1 behind the `EOS` for epoch 0: its live stream is
ended with epoch 0. -/
theorem flush_overtakes_eos :
    let protocol := wellFormedProtocol fun _ _ => true
    ∃ presenter key source,
      (presenterMachine protocol .standard).Reachable (fun _ _ => True)
          presenter ∧
        presenter.shared.sources.find? key = some source ∧
        source.ended = true ∧ source.eosEpoch = some 0 ∧
        source.flushEpoch = 1 ∧ protocol.epoch source.sequence = 1 ∧
        ¬ EndsOwnEpoch presenter.shared := by
  intro protocol
  have ended : ((runEvents protocol (fun _ _ => true)
      (connecting ++ creatingVideo ++ endingVideo ++
        controlling 4 (.flush (.ok (plainEnvelope, 4, 1))) 2 ++
        receivingPacket 1 ++ applyingBarrier)).bind fun presenter =>
          (presenter.shared.sources.find? ⟨1, 4⟩).map fun source =>
            (presenter.shared.sources.find? ⟨1, 4⟩ = some source ∧
              source.ended = true ∧ source.eosEpoch = some 0 ∧
              source.flushEpoch = 1 ∧ protocol.epoch source.sequence = 1 :
                Bool)) = some true := by
    decide +kernel
  obtain ⟨presenter, followed, holds⟩ := Option.bind_eq_some_iff.mp ended
  obtain ⟨source, found, facts⟩ := Option.map_eq_some_iff.mp holds
  obtain ⟨-, isEnded, eosEpoch, flushEpoch, epoch⟩ := of_decide_eq_true facts
  refine ⟨presenter, ⟨1, 4⟩, source, reachable_runEvents protocol
    (fun _ _ _ => trivial) _ followed, found, isEnded, eosEpoch, flushEpoch,
    epoch, ?_⟩
  intro ends
  obtain ⟨last, isLast, fits⟩ := ends ⟨1, 4⟩ source found isEnded
  rw [eosEpoch] at isLast
  cases isLast
  omega

end Media
end Vvmux
