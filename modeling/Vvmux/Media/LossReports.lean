import Vvmux.Library.Machine
import Vvmux.Media.Notify

/-!
# Loss reports

An event that a producer's observation queue cannot take is lost, and the next
event of its class reports the number of the first loss.  The number is taken
out of the producer's record when the event that reports it is built, so a
second loss in a row replaces the first one.
-/

namespace Vvmux
namespace Media

open Library

/-- The events that report a loss. -/
inductive EventClass where
  | scene
  | source

namespace Emission

/-- What an event of a class reports, if the queue took it. -/
def reports : EventClass → Emission → Option (Option Nat)
  | .scene, .scene _ firstLost true => some firstLost
  | .source, .source _ firstLost true => some firstLost
  | _, _ => none

/-- The number of an event of a class that was lost.  Playback events are
counted with the source events. -/
def loses : EventClass → Emission → Option Nat
  | .scene, .scene sequence _ false => some sequence
  | .source, .source sequence _ false => some sequence
  | .source, .playback sequence false => some sequence
  | _, _ => none

end Emission

/-- The events of a class lost since one was last queued, the latest first;
the history has its latest event first. -/
def losses
    (observed : EventClass) :
    List Emission → List Nat
  | [] => []
  | emission :: earlier =>
      match emission.reports observed, emission.loses observed with
      | some _, _ => []
      | none, some sequence => sequence :: losses observed earlier
      | none, none => losses observed earlier

/-- Every event of the class that was queued reports the earliest loss since
the one before it, and none where nothing was lost. -/
def Truthful (observed : EventClass) (history : List Emission) : Prop :=
  ∀ later emission earlier reported,
    history = later ++ emission :: earlier →
      emission.reports observed = some reported →
        reported = (losses observed earlier).getLast?

theorem truthful_nil (observed : EventClass) : Truthful observed [] := by
  intro later emission earlier reported split
  simp at split

theorem Truthful.cons
    {observed : EventClass}
    {history : List Emission}
    (truthful : Truthful observed history)
    {emission : Emission}
    (honest : ∀ reported, emission.reports observed = some reported →
      reported = (losses observed history).getLast?) :
    Truthful observed (emission :: history) := by
  intro later other earlier reported split reports
  cases later with
  | nil =>
      simp only [List.nil_append, List.cons.injEq] at split
      obtain ⟨rfl, rfl⟩ := split
      exact honest reported reports
  | cons latest rest =>
      simp only [List.cons_append, List.cons.injEq] at split
      exact truthful rest other earlier reported split.2 reports

/-- The loss a producer has on record for a class. -/
def Producer.firstLost
    (producer : Producer) :
    EventClass → Option Nat
  | .scene => producer.firstLostSceneSequence
  | .source => producer.firstLostSourceSequence

/-- The record of a producer is the earliest unreported loss, and its history
is truthful. -/
structure Producer.Recorded
    (observed : EventClass)
    (producer : Producer) : Prop where
  firstLost :
    producer.firstLost observed =
      (losses observed producer.emissions).getLast?
  truthful : Truthful observed producer.emissions

/-- The record of a producer was taken into an event under construction. -/
structure Producer.Taken
    (observed : EventClass)
    (reported : Option Nat)
    (producer : Producer) : Prop where
  firstLost : producer.firstLost observed = none
  reported : reported = (losses observed producer.emissions).getLast?
  truthful : Truthful observed producer.emissions

variable {observed : EventClass} {producer : Producer} {state : State}
  {producerId : ProducerId} {event : Option (Nat × Option Nat)}
  {key : SourceKey} {revision : Nat} {changed : List SourceChange}

theorem Producer.Taken.recorded
    (taken : producer.Taken observed none) : producer.Recorded observed where
  firstLost := taken.firstLost.trans taken.reported
  truthful := taken.truthful

variable {emission : Emission}

/-- An event of the other class leaves a class as it is. -/
theorem losses_cons_other
    (silent : emission.reports observed = none)
    (kept : emission.loses observed = none)
    (history : List Emission) :
    losses observed (emission :: history) = losses observed history := by
  simp only [losses, silent, kept]

/-! ## The record of one producer -/

variable (protocol : Protocol)

/-- Whatever is stored for a producer has its losses on record. -/
def LossesRecorded
    (observed : EventClass)
    (producerId : ProducerId)
    (state : State) : Prop :=
  ∀ producer, state.producers.find? producerId = some producer →
    producer.Recorded observed

/-- What `offer` does to the producer it is for. -/
def Producer.offered
    (producer : Producer)
    (enqueued : Bool)
    (emission : Bool → Emission)
    (lost : Producer → Producer) : Producer :=
  if enqueued then
    { producer with emissions := emission true :: producer.emissions }
  else lost { producer with emissions := emission false :: producer.emissions }

section

variable (state : State) (producerId : ProducerId)

theorem find?_offer
    (sequence : Nat)
    (event : Reply)
    (emission : Bool → Emission)
    (lost : Producer → Producer) :
    (offer protocol state producerId sequence event emission
      lost).producers.find? producerId =
      (state.producers.find? producerId).map fun producer =>
        producer.offered (protocol.enqueues producerId sequence) emission
          lost := by
  unfold offer Producer.offered
  split
  · simp only [State.write, State.updateProducer, OrderedMap.find?_modify,
      if_pos]
  · simp only [State.updateProducer, OrderedMap.find?_modify, if_pos,
      Bool.false_eq_true, if_false]

theorem find?_updateProducer
    (change : Producer → Producer) :
    (state.updateProducer producerId change).producers.find? producerId =
      (state.producers.find? producerId).map change := by
  simp only [State.updateProducer, OrderedMap.find?_modify, if_pos]

@[simp] theorem producers_writes
    (replies : List Reply) :
    (replies.foldl (·.write producerId ·) state).producers =
      state.producers := by
  induction replies generalizing state with
  | nil => rfl
  | cons reply rest ih =>
      rw [List.foldl_cons, ih]
      rfl

end

/-- An event of another class leaves the record of a class alone. -/
theorem Producer.Recorded.pass
    {before after : Producer}
    (recorded : before.Recorded observed)
    (silent : emission.reports observed = none)
    (kept : emission.loses observed = none)
    (sameRecord : after.firstLost observed = before.firstLost observed)
    (history : after.emissions = emission :: before.emissions) :
    after.Recorded observed where
  firstLost := by
    rw [sameRecord, history, losses_cons_other silent kept]
    exact recorded.firstLost
  truthful := by
    rw [history]
    apply recorded.truthful.cons
    intro reported reports
    rw [silent] at reports
    cases reports

/-- Neither the record nor the history of a producer changed. -/
def Producer.SameRecord (before after : Producer) : Prop :=
  after.emissions = before.emissions ∧
    ∀ observed, after.firstLost observed = before.firstLost observed

theorem Producer.Recorded.of_same
    {observed : EventClass}
    {before after : Producer}
    (recorded : before.Recorded observed)
    (same : before.SameRecord after) : after.Recorded observed where
  firstLost := by
    rw [same.1, same.2]
    exact recorded.firstLost
  truthful := by
    rw [same.1]
    exact recorded.truthful

theorem Producer.Taken.of_same
    {observed : EventClass}
    {reported : Option Nat}
    {before after : Producer}
    (taken : before.Taken observed reported)
    (same : before.SameRecord after) : after.Taken observed reported where
  firstLost := (same.2 observed).trans taken.firstLost
  reported := by
    rw [same.1]
    exact taken.reported
  truthful := by
    rw [same.1]
    exact taken.truthful

/-! ## Offering an event -/

/-- A list whose last element is missing is empty. -/
theorem losses_eq_nil
    {history : List Emission}
    (unreported : (losses observed history).getLast? = none) :
    losses observed history = [] :=
  List.getLast?_eq_none_iff.mp unreported

/-- Offering an event that took the record leaves the record right again, if
a loss is not lost a second time. -/
theorem Producer.Taken.offered
    {reported : Option Nat}
    (taken : producer.Taken observed reported)
    {emission : Bool → Emission}
    {lost : Producer → Producer}
    {sequence : Nat}
    {enqueued : Bool}
    (delivered : (emission true).reports observed = some reported)
    (silent : (emission false).reports observed = none)
    (missed : (emission false).loses observed = some sequence)
    (history : ∀ other, (lost other).emissions = other.emissions)
    (marked : ∀ other, (lost other).firstLost observed =
      (other.firstLost observed).or (some sequence))
    (lands : reported = none ∨ enqueued = true) :
    (producer.offered enqueued emission lost).Recorded observed := by
  unfold Producer.offered
  cases enqueued with
  | true =>
      rw [if_pos rfl]
      constructor
      · have cleared : losses observed
            (emission true :: producer.emissions) = [] := by
          simp only [losses, delivered]
        simp only [cleared, List.getLast?_nil]
        cases observed
        · exact taken.firstLost
        · exact taken.firstLost
      · apply taken.truthful.cons
        intro other reports
        rw [delivered] at reports
        rw [← Option.some.inj reports]
        exact taken.reported
  | false =>
      rw [if_neg (by simp)]
      have unreported : reported = none := by simpa using lands
      have none : losses observed producer.emissions = [] :=
        losses_eq_nil (taken.reported.symm.trans unreported)
      constructor
      · have single : losses observed
            (emission false :: producer.emissions) = [sequence] := by
          simp only [losses, silent, missed, none]
        rw [marked, history]
        simp only [single, List.getLast?_singleton]
        have cleared : Producer.firstLost
            { producer with
              emissions := emission false :: producer.emissions } observed =
              Option.none := by
          cases observed
          · exact taken.firstLost
          · exact taken.firstLost
        rw [cleared]
        rfl
      · rw [history]
        apply taken.truthful.cons
        intro other reports
        rw [silent] at reports
        cases reports

theorem recorded_offerScene
    (taken : ∀ producer, state.producers.find? producerId = some producer →
      producer.Taken .scene (event.bind Prod.snd))
    (lands : ∀ numbered, event = some numbered → numbered.2 = none ∨
      protocol.enqueues producerId numbered.1 = true)
    (revision : Nat)
    (reason : SceneReason) :
    LossesRecorded .scene producerId
      (offerScene protocol state producerId revision reason event) := by
  intro after found
  cases event with
  | none => exact (taken after found).recorded
  | some numbered =>
      simp only [offerScene, find?_offer, Option.map_eq_some_iff] at found
      obtain ⟨producer, here, rfl⟩ := found
      exact (taken producer here).offered rfl rfl rfl (fun _ => rfl)
        (fun _ => rfl) (lands numbered rfl)

theorem recorded_offerSource
    (taken : ∀ producer, state.producers.find? key.producer = some producer →
      producer.Taken .source (event.bind Prod.snd))
    (lands : ∀ numbered, event = some numbered → numbered.2 = none ∨
      protocol.enqueues key.producer numbered.1 = true)
    (revision : Nat)
    (changed : List SourceChange) :
    LossesRecorded .source key.producer
      (offerSource protocol state key revision changed event) := by
  intro after found
  cases event with
  | none => exact (taken after found).recorded
  | some numbered =>
      simp only [offerSource, find?_offer, Option.map_eq_some_iff] at found
      obtain ⟨producer, here, rfl⟩ := found
      exact (taken producer here).offered rfl rfl rfl (fun _ => rfl)
        (fun _ => rfl) (lands numbered rfl)

/-- A source event is no scene event. -/
theorem sceneRecorded_offerSource
    (recorded : LossesRecorded .scene key.producer state)
    (revision : Nat)
    (changed : List SourceChange)
    (event : Option (Nat × Option Nat)) :
    LossesRecorded .scene key.producer
      (offerSource protocol state key revision changed event) := by
  intro after found
  cases event with
  | none => exact recorded after found
  | some numbered =>
      simp only [offerSource, find?_offer, Option.map_eq_some_iff] at found
      obtain ⟨producer, here, rfl⟩ := found
      cases outcome : protocol.enqueues key.producer numbered.1 with
      | true | false => exact (recorded producer here).pass rfl rfl rfl rfl

/-- A scene event is no source event. -/
theorem sourceRecorded_offerScene
    (recorded : LossesRecorded .source producerId state)
    (revision : Nat)
    (reason : SceneReason)
    (event : Option (Nat × Option Nat)) :
    LossesRecorded .source producerId
      (offerScene protocol state producerId revision reason event) := by
  intro after found
  cases event with
  | none => exact recorded after found
  | some numbered =>
      simp only [offerScene, find?_offer, Option.map_eq_some_iff] at found
      obtain ⟨producer, here, rfl⟩ := found
      cases outcome : protocol.enqueues producerId numbered.1 with
      | true | false => exact (recorded producer here).pass rfl rfl rfl rfl

/-- The loss of a playback event is recorded behind an earlier one. -/
theorem recorded_offerPlayback
    (recorded : LossesRecorded observed key.producer state)
    (source : Source)
    (playback : Option Nat) :
    LossesRecorded observed key.producer
      (offerPlayback protocol state key source playback) := by
  intro after found
  cases playback with
  | none => exact recorded after found
  | some sequence =>
      simp only [offerPlayback, find?_offer, Option.map_eq_some_iff] at found
      obtain ⟨producer, here, rfl⟩ := found
      have before := recorded producer here
      cases outcome : protocol.enqueues key.producer sequence with
      | true => cases observed <;> exact before.pass rfl rfl rfl rfl
      | false =>
          cases observed with
          | scene => exact before.pass rfl rfl rfl rfl
          | source =>
              constructor
              · have record := before.firstLost
                simp only [Producer.firstLost] at record
                simp only [Producer.offered, Producer.firstLost,
                  Producer.loseSource, Bool.false_eq_true, if_false, losses,
                  Emission.reports, Emission.loses, List.getLast?_cons,
                  record]
                cases (losses .source producer.emissions).getLast? <;> rfl
              · apply before.truthful.cons
                intro reported reports
                cases reports

/-! ## Building an event -/

/-- A scene event that is built while a loss is on record reaches the
producer's queue. -/
def SceneEventLands
    (state : State)
    (producerId : ProducerId)
    (reason : SceneReason) : Prop :=
  ∀ producer revision sequence first,
    state.producers.find? producerId = some producer →
    producer.observationMask.contains .sceneChanges = true →
    producer.firstLostSceneSequence = some first →
    protocol.advance producer.sceneRevision = some revision →
    protocol.advance producer.observationSequence = some sequence →
      protocol.encode (.sceneChanged revision reason sequence (some first)) =
          .ok () ∧
        protocol.enqueues producerId sequence = true

section

variable (producer : Producer) (key : SourceKey)

/-- A source event that is built while a loss is on record reaches the
producer's queue. -/
def SourceEventLands
    (revision : Nat)
    (changed : List SourceChange) : Prop :=
  ∀ sequence first,
    producer.observationMask.contains .sourceTransitions = true →
    producer.firstLostSourceSequence = some first →
    protocol.advance producer.observationSequence = some sequence →
      protocol.encode
          (.sourceChanged key.object revision changed sequence
            (some first)) = .ok () ∧
        protocol.enqueues key.producer sequence = true

/-- Where a source event is built while a loss is on record, the playback
event numbered behind it can be built too. -/
def PlaybackFollows
    (source : Source)
    (changed : List SourceChange) : Prop :=
  ∀ sequence first,
    producer.observationMask.contains .sourceTransitions = true →
    producer.firstLostSourceSequence = some first →
    protocol.advance producer.observationSequence = some sequence →
    changed.contains .playback = true →
    producer.observationMask.contains .playbackTransitions = true →
    source.descriptor.isTimed = true →
      ∃ next, protocol.advance sequence = some next ∧
        protocol.encode
          (.playbackState key.object source.revision next
            (playbackSnapshot protocol source)) = .ok ()

/-- A scene event is not wanted, cannot be numbered, or takes the record. -/
theorem numberScene_cases
    (producer : Producer)
    (revision : Nat)
    (reason : SceneReason) :
    numberScene protocol producer revision reason = (producer, .ok none) ∨
    (∃ text, numberScene protocol producer revision reason =
      (producer, .error text)) ∨
    ∃ sequence,
      producer.observationMask.contains .sceneChanges = true ∧
      protocol.advance producer.observationSequence = some sequence ∧
      numberScene protocol producer revision reason =
        ({ producer with
            observationSequence := sequence
            firstLostSceneSequence := none },
          (protocol.encode (.sceneChanged revision reason sequence
            producer.firstLostSceneSequence)).map fun _ =>
              some (sequence, producer.firstLostSceneSequence)) := by
  unfold numberScene
  split
  · rename_i observes
    split
    · exact .inr (.inl ⟨_, rfl⟩)
    · rename_i sequence advanced
      exact .inr (.inr ⟨sequence, observes, advanced, rfl⟩)
  · exact .inl rfl

/-- A source event is not wanted, cannot be numbered, or takes the record. -/
theorem numberSource_cases
    (revision : Nat)
    (changed : List SourceChange) :
    numberSource protocol producer key revision changed =
      (producer, .ok none) ∨
    (∃ text, numberSource protocol producer key revision changed =
      (producer, .error text)) ∨
    ∃ sequence,
      producer.observationMask.contains .sourceTransitions = true ∧
      protocol.advance producer.observationSequence = some sequence ∧
      numberSource protocol producer key revision changed =
        ({ producer with
            observationSequence := sequence
            firstLostSourceSequence := none },
          (protocol.encode (.sourceChanged key.object revision changed
            sequence producer.firstLostSourceSequence)).map fun _ =>
              some (sequence, producer.firstLostSourceSequence)) := by
  unfold numberSource
  split
  · rename_i observes
    split
    · exact .inr (.inl ⟨_, rfl⟩)
    · rename_i sequence advanced
      exact .inr (.inr ⟨sequence, observes, advanced, rfl⟩)
  · exact .inl rfl

/-- Numbering a playback event leaves the record alone. -/
theorem sameRecord_numberPlayback
    (source : Source)
    (changed : List SourceChange) :
    producer.SameRecord
      (numberPlayback protocol producer key source changed).1 := by
  unfold numberPlayback
  split
  · split
    · exact ⟨rfl, fun _ => rfl⟩
    · refine ⟨rfl, ?_⟩
      rintro (_ | _) <;> rfl
  · exact ⟨rfl, fun _ => rfl⟩

theorem sameRecord_settleWaits
    (source : Source) :
    producer.SameRecord (settleWaits protocol producer key source).1 := by
  refine ⟨rfl, ?_⟩
  rintro (_ | _) <;> rfl

end

theorem Producer.SameRecord.trans
    {first second third : Producer}
    (before : first.SameRecord second)
    (after : second.SameRecord third) : first.SameRecord third :=
  ⟨after.1.trans before.1,
    fun observed => (after.2 observed).trans (before.2 observed)⟩

/-! ## The three functions -/

/-- Setting a producer to one whose losses are on record. -/
theorem recorded_setProducer
    (recorded : producer.Recorded observed) :
    LossesRecorded observed producerId
      (state.updateProducer producerId fun _ => producer) := by
  intro after found
  rw [find?_updateProducer, Option.map_eq_some_iff] at found
  obtain ⟨_, _, rfl⟩ := found
  exact recorded

theorem recorded_advanceScene
    {reason : SceneReason}
    (recorded : LossesRecorded .scene producerId state)
    (lands : SceneEventLands protocol state producerId reason) :
    LossesRecorded .scene producerId
      (advanceScene protocol state producerId reason).1 := by
  unfold advanceScene
  cases found : state.producers.find? producerId with
  | none => exact recorded
  | some producer =>
      simp only
      cases advanced : protocol.advance producer.sceneRevision with
      | none => exact recorded
      | some revision =>
          have before := recorded producer found
          have revised : Producer.Recorded .scene
              { producer with sceneRevision := revision } :=
            before.of_same ⟨rfl, by rintro (_ | _) <;> rfl⟩
          simp only
          rcases numberScene_cases protocol
              { producer with sceneRevision := revision } revision reason with
            silent | ⟨text, exhausted⟩ | ⟨sequence, observes, next, built⟩
          · rw [silent]
            exact recorded_setProducer revised
          · rw [exhausted]
            exact recorded_setProducer revised
          · rw [built]
            have taken : Producer.Taken .scene
                producer.firstLostSceneSequence
                { producer with
                  sceneRevision := revision
                  observationSequence := sequence
                  firstLostSceneSequence := none } :=
              ⟨rfl, before.firstLost, before.truthful⟩
            cases encoded : protocol.encode (.sceneChanged revision reason
                sequence producer.firstLostSceneSequence) with
            | error text =>
                simp only [encoded, Except.map]
                cases record : producer.firstLostSceneSequence with
                | none =>
                    rw [record] at taken
                    exact recorded_setProducer taken.recorded
                | some first =>
                    have reached := lands producer revision sequence first
                      found observes record advanced next
                    rw [← record, encoded] at reached
                    cases reached.1
            | ok value =>
                simp only [encoded, Except.map]
                apply recorded_offerScene
                · intro after here
                  rw [find?_updateProducer, Option.map_eq_some_iff] at here
                  obtain ⟨_, _, rfl⟩ := here
                  exact taken
                · rintro numbered ⟨⟩
                  cases record : producer.firstLostSceneSequence with
                  | none => exact .inl rfl
                  | some first =>
                      exact .inr (lands producer revision sequence first found
                        observes record advanced next).2

/-- Scene events leave the source events' record alone. -/
theorem sourceRecorded_advanceScene
    (recorded : LossesRecorded .source producerId state)
    (reason : SceneReason) :
    LossesRecorded .source producerId
      (advanceScene protocol state producerId reason).1 := by
  unfold advanceScene
  cases found : state.producers.find? producerId with
  | none => exact recorded
  | some producer =>
      simp only
      cases advanced : protocol.advance producer.sceneRevision with
      | none => exact recorded
      | some revision =>
          have before := recorded producer found
          simp only
          rcases numberScene_cases protocol
              { producer with sceneRevision := revision } revision reason with
            silent | ⟨text, exhausted⟩ | ⟨sequence, _, _, built⟩
          · rw [silent]
            exact recorded_setProducer ⟨before.firstLost, before.truthful⟩
          · rw [exhausted]
            exact recorded_setProducer ⟨before.firstLost, before.truthful⟩
          · rw [built]
            have numbered : LossesRecorded .source producerId
                (state.updateProducer producerId fun _ =>
                  { producer with
                    sceneRevision := revision
                    observationSequence := sequence
                    firstLostSceneSequence := none }) :=
              recorded_setProducer ⟨before.firstLost, before.truthful⟩
            simp only
            split
            · exact numbered
            · exact sourceRecorded_offerScene protocol numbered _ _ _

/-- What is left of a producer once its source event is numbered. -/
theorem recorded_numberSource_error
    (recorded : producer.Recorded .source)
    (lands : SourceEventLands protocol producer key revision changed)
    {text : String}
    (failed : (numberSource protocol producer key revision changed).2 =
      .error text) :
    (numberSource protocol producer key revision changed).1.Recorded
      .source := by
  rcases numberSource_cases protocol producer key revision changed with
    silent | ⟨other, exhausted⟩ | ⟨sequence, observes, advanced, built⟩
  · rw [silent]
    exact recorded
  · rw [exhausted]
    exact recorded
  · rw [built] at failed ⊢
    cases record : producer.firstLostSourceSequence with
    | none =>
        have taken : Producer.Taken .source producer.firstLostSourceSequence
            { producer with
              observationSequence := sequence
              firstLostSourceSequence := none } :=
          ⟨rfl, recorded.firstLost, recorded.truthful⟩
        rw [record] at taken
        exact taken.recorded
    | some first =>
        have reached := (lands sequence first observes record advanced).1
        rw [record, reached] at failed
        cases failed

/-- A numbered source event carries the record. -/
theorem taken_numberSource
    (recorded : producer.Recorded .source)
    (lands : SourceEventLands protocol producer key revision changed)
    (numbered : (numberSource protocol producer key revision changed).2 =
      .ok event) :
    (event = none ∧
      (numberSource protocol producer key revision changed).1 = producer) ∨
    ∃ sequence,
      event = some (sequence, producer.firstLostSourceSequence) ∧
      producer.observationMask.contains .sourceTransitions = true ∧
      protocol.advance producer.observationSequence = some sequence ∧
      (numberSource protocol producer key revision changed).1 =
        { producer with
          observationSequence := sequence
          firstLostSourceSequence := none } ∧
      (numberSource protocol producer key revision changed).1.Taken .source
        producer.firstLostSourceSequence ∧
      (producer.firstLostSourceSequence = none ∨
        protocol.enqueues key.producer sequence = true) := by
  rcases numberSource_cases protocol producer key revision changed with
    silent | ⟨other, exhausted⟩ | ⟨sequence, observes, advanced, built⟩
  · rw [silent] at numbered ⊢
    exact .inl ⟨(Except.ok.inj numbered).symm, rfl⟩
  · rw [exhausted] at numbered
    cases numbered
  · rw [built] at numbered ⊢
    refine .inr ⟨sequence, ?_, observes, advanced, rfl,
      ⟨rfl, recorded.firstLost, recorded.truthful⟩, ?_⟩
    · cases encoded : protocol.encode (.sourceChanged key.object revision
          changed sequence producer.firstLostSourceSequence) with
      | error text =>
          rw [encoded] at numbered
          cases numbered
      | ok value =>
          rw [encoded] at numbered
          exact (Except.ok.inj numbered).symm
    · cases record : producer.firstLostSourceSequence with
      | none => exact .inl rfl
      | some first =>
          exact .inr (lands sequence first observes record advanced).2

/-- A source event that was numbered is offered with its record. -/
theorem recorded_offerNumbered
    (state : State)
    {producer told : Producer}
    (recorded : producer.Recorded .source)
    (lands : SourceEventLands protocol producer key revision changed)
    (numbered : (numberSource protocol producer key revision changed).2 =
      .ok event)
    (same : (numberSource protocol producer key revision
      changed).1.SameRecord told) :
    LossesRecorded .source key.producer
      (offerSource protocol
        (state.updateProducer key.producer fun _ => told) key revision
        changed event) := by
  rcases taken_numberSource protocol recorded lands numbered with
    ⟨rfl, unchanged⟩ | ⟨sequence, rfl, _, _, _, taken, reaches⟩
  · rw [unchanged] at same
    exact recorded_setProducer (recorded.of_same same)
  · apply recorded_offerSource
    · intro after here
      rw [find?_updateProducer, Option.map_eq_some_iff] at here
      obtain ⟨_, _, rfl⟩ := here
      exact taken.of_same same
    · rintro numbered ⟨⟩
      exact reaches

theorem recorded_notifySource
    {source : Source}
    (recorded : LossesRecorded .source key.producer state)
    (lands : ∀ producer, state.producers.find? key.producer = some producer →
      SourceEventLands protocol producer key source.revision changed ∧
        PlaybackFollows protocol producer key source changed) :
    LossesRecorded .source key.producer
      (notifySource protocol state key source changed).1 := by
  unfold notifySource
  cases found : state.producers.find? key.producer with
  | none => exact recorded
  | some producer =>
      have before := recorded producer found
      obtain ⟨reaches, follows⟩ := lands producer found
      simp only
      split
      · rename_i text failed
        exact recorded_setProducer
          (recorded_numberSource_error protocol before reaches failed)
      · rename_i event numbered
        have counted := sameRecord_numberPlayback protocol
          (numberSource protocol producer key source.revision changed).1 key
          source changed
        split
        · rename_i text failed
          apply recorded_setProducer
          rcases taken_numberSource protocol before reaches numbered with
            ⟨_, unchanged⟩ |
              ⟨sequence, _, observes, advanced, built, taken, _⟩
          · rw [unchanged] at counted ⊢
            exact before.of_same counted
          · cases record : producer.firstLostSourceSequence with
            | none =>
                rw [record] at taken
                exact (taken.of_same counted).recorded
            | some first =>
                -- The playback event behind a reported loss is built.
                rw [built] at failed
                unfold numberPlayback at failed
                split at failed
                · rename_i wanted
                  simp only [Bool.and_eq_true] at wanted
                  obtain ⟨next, stepped, encodes⟩ := follows sequence first
                    observes record advanced wanted.1.1 wanted.1.2 wanted.2
                  simp only [stepped, encodes, Except.map] at failed
                  cases failed
                · cases failed
        · have settled := counted.trans
            (sameRecord_settleWaits protocol _ key source)
          have sent := recorded_offerNumbered protocol state
            before reaches numbered settled
          have played := recorded_offerPlayback protocol sent source
          simp only
          split
          · intro after here
            rw [producers_writes] at here
            exact played _ after here
          · exact played _

theorem recorded_emitSourceEvent
    (recorded : LossesRecorded .source key.producer state)
    (lands : ∀ producer source,
      state.producers.find? key.producer = some producer →
      state.sources.find? key = some source →
        SourceEventLands protocol producer key source.revision changed) :
    LossesRecorded .source key.producer
      (emitSourceEvent protocol state key changed).1 := by
  unfold emitSourceEvent
  cases there : state.sources.find? key with
  | none => exact recorded
  | some source =>
      cases found : state.producers.find? key.producer with
      | none => exact recorded
      | some producer =>
          have before := recorded producer found
          have reaches := lands producer source found there
          simp only
          split
          · rename_i text failed
            exact recorded_setProducer
              (recorded_numberSource_error protocol before reaches failed)
          · rename_i event numbered
            exact recorded_offerNumbered protocol state before reaches
              numbered ⟨rfl, fun _ => rfl⟩

theorem recorded_advanceSource
    (recorded : LossesRecorded .source key.producer state)
    (lands : ∀ producer source revision,
      state.producers.find? key.producer = some producer →
      state.sources.find? key = some source →
      protocol.advance source.revision = some revision →
        SourceEventLands protocol producer key revision changed ∧
          PlaybackFollows protocol producer key
            { source with revision := revision } changed) :
    LossesRecorded .source key.producer
      (advanceSource protocol state key changed).1 := by
  unfold advanceSource
  cases there : state.sources.find? key with
  | none => exact recorded
  | some source =>
      simp only
      cases advanced : protocol.advance source.revision with
      | none => exact recorded
      | some revision =>
          apply recorded_notifySource
          · exact recorded
          · intro producer found
            exact lands producer source revision found there advanced

/-! ### Source events and the record of scene events -/

theorem sceneRecorded_numberSource
    (recorded : producer.Recorded .scene)
    (key : SourceKey)
    (revision : Nat)
    (changed : List SourceChange) :
    (numberSource protocol producer key revision changed).1.Recorded
      .scene := by
  rcases numberSource_cases protocol producer key revision changed with
    silent | ⟨text, exhausted⟩ | ⟨sequence, _, _, built⟩
  · rw [silent]
    exact recorded
  · rw [exhausted]
    exact recorded
  · rw [built]
    exact ⟨recorded.firstLost, recorded.truthful⟩

section

variable (recorded : LossesRecorded .scene key.producer state)
include recorded

theorem sceneRecorded_emitSourceEvent
    (changed : List SourceChange) :
    LossesRecorded .scene key.producer
      (emitSourceEvent protocol state key changed).1 := by
  unfold emitSourceEvent
  split
  · exact recorded
  · split
    · exact recorded
    · rename_i source _ _ producer found
      have numbered := sceneRecorded_numberSource protocol
        (recorded producer found) key source.revision changed
      simp only
      split
      · exact recorded_setProducer numbered
      · exact sceneRecorded_offerSource protocol
          (recorded_setProducer numbered) _ _ _

theorem sceneRecorded_notifySource
    (source : Source)
    (changed : List SourceChange) :
    LossesRecorded .scene key.producer
      (notifySource protocol state key source changed).1 := by
  unfold notifySource
  split
  · exact recorded
  · rename_i producer found
    have first := sceneRecorded_numberSource protocol
      (recorded producer found) key source.revision changed
    have second := first.of_same
      (sameRecord_numberPlayback protocol _ key source changed)
    have settled := second.of_same
      (sameRecord_settleWaits protocol _ key source)
    simp only
    split
    · exact recorded_setProducer first
    · rename_i event _
      split
      · exact recorded_setProducer second
      · rename_i playback _
        have told : LossesRecorded .scene key.producer
            (state.updateProducer key.producer fun _ => _) :=
          recorded_setProducer settled
        have sent := sceneRecorded_offerSource protocol told source.revision
          changed event
        have played := recorded_offerPlayback protocol sent source playback
        simp only
        split
        · intro after here
          rw [producers_writes] at here
          exact played after here
        · exact played

theorem sceneRecorded_advanceSource
    (changed : List SourceChange) :
    LossesRecorded .scene key.producer
      (advanceSource protocol state key changed).1 := by
  unfold advanceSource
  split
  · exact recorded
  · split
    · exact recorded
    · apply sceneRecorded_notifySource
      exact recorded

end

/-! ## Runs -/

/-- A call of one of the three functions for a producer, or anything else the
presenter does. -/
inductive LossEvent where
  | advanceScene (reason : SceneReason)
  | advanceSource (object : Nat) (changed : List SourceChange)
  | emitSourceEvent (object : Nat) (changed : List SourceChange)
  | elsewhere

/-- The presenter as far as it tells one producer of losses. -/
def lossMachine (producerId : ProducerId) : Machine State LossEvent where
  initial state := ∀ producer,
    state.producers.find? producerId = some producer →
      producer.emissions = [] ∧ producer.firstLostSceneSequence = none ∧
        producer.firstLostSourceSequence = none
  step before event after :=
    match event with
    | .advanceScene reason =>
        after = (Media.advanceScene protocol before producerId reason).1
    | .advanceSource object changed =>
        after =
          (Media.advanceSource protocol before ⟨producerId, object⟩ changed).1
    | .emitSourceEvent object changed =>
        after =
          (Media.emitSourceEvent protocol before ⟨producerId, object⟩
            changed).1
    | .elsewhere =>
        ∀ producer, after.producers.find? producerId = some producer →
          ∃ earlier, before.producers.find? producerId = some earlier ∧
            earlier.SameRecord producer

/-- An event of the class that is built while a loss is on record reaches the
producer's queue. -/
def Lands
    (observed : EventClass)
    (producerId : ProducerId)
    (state : State) :
    LossEvent → Prop
  | .advanceScene reason =>
      observed = .scene → SceneEventLands protocol state producerId reason
  | .advanceSource object changed =>
      observed = .source → ∀ producer source revision,
        state.producers.find? producerId = some producer →
        state.sources.find? ⟨producerId, object⟩ = some source →
        protocol.advance source.revision = some revision →
          SourceEventLands protocol producer ⟨producerId, object⟩ revision
              changed ∧
            PlaybackFollows protocol producer ⟨producerId, object⟩
              { source with revision := revision } changed
  | .emitSourceEvent object changed =>
      observed = .source → ∀ producer source,
        state.producers.find? producerId = some producer →
        state.sources.find? ⟨producerId, object⟩ = some source →
          SourceEventLands protocol producer ⟨producerId, object⟩
            source.revision changed
  | .elsewhere => True

theorem lossesRecorded_step
    (observed : EventClass)
    (producerId : ProducerId) :
    (lossMachine protocol producerId).Preserved
      (Lands protocol observed producerId)
      (LossesRecorded observed producerId) := by
  intro before event after recorded lands stepped
  cases event with
  | advanceScene reason =>
      have result : after = _ := stepped
      rw [result]
      cases observed with
      | scene => exact recorded_advanceScene protocol recorded (lands rfl)
      | source => exact sourceRecorded_advanceScene protocol recorded reason
  | advanceSource object changed =>
      have result : after = _ := stepped
      rw [result]
      cases observed with
      | scene =>
          have here : LossesRecorded .scene
              (ObjectKey.mk producerId object).producer before := recorded
          exact sceneRecorded_advanceSource protocol here changed
      | source =>
          have here : LossesRecorded .source
              (ObjectKey.mk producerId object).producer before := recorded
          exact recorded_advanceSource protocol here (lands rfl)
  | emitSourceEvent object changed =>
      have result : after = _ := stepped
      rw [result]
      cases observed with
      | scene =>
          have here : LossesRecorded .scene
              (ObjectKey.mk producerId object).producer before := recorded
          exact sceneRecorded_emitSourceEvent protocol here changed
      | source =>
          have here : LossesRecorded .source
              (ObjectKey.mk producerId object).producer before := recorded
          exact recorded_emitSourceEvent protocol here (lands rfl)
  | elsewhere =>
      intro producer found
      obtain ⟨earlier, here, same⟩ := stepped producer found
      exact (recorded earlier here).of_same same

/-- In every run whose events reach the queue wherever a loss is on record,
each queued event reports the earliest loss since the one before it. -/
theorem firstLost_truthful
    (observed : EventClass)
    (producerId : ProducerId)
    {state : State}
    (reachable : (lossMachine protocol producerId).Reachable
      (Lands protocol observed producerId) state)
    {producer : Producer}
    (found : state.producers.find? producerId = some producer) :
    Truthful observed producer.emissions := by
  have initially : ∀ start, (lossMachine protocol producerId).initial start →
      LossesRecorded observed producerId start := by
    intro start initial producer found
    obtain ⟨history, sceneRecord, sourceRecord⟩ := initial producer found
    constructor
    · rw [history]
      cases observed
      · exact sceneRecord
      · exact sourceRecord
    · rw [history]
      exact truthful_nil observed
  have recorded := reachable.invariant initially
    (lossesRecorded_step protocol observed producerId)
  exact (recorded producer found).truthful

/-! ### A producer that watches its scene -/

/-- A producer that was just admitted and observes scene changes. -/
def sceneWatcher : Producer where
  pane := 1
  tag := 0
  anchorKey := 0
  connected := true
  features := [.observabilityCore]
  anchors := .empty
  seenAnchors := []
  sceneRevision := 0
  observationMask := [.sceneChanges]
  observationSequence := 0
  firstLostSourceSequence := none
  firstLostSceneSequence := none
  waits := .empty
  emissions := []

def watchedState : State :=
  { State.start Config.standard false with
    producers := OrderedMap.empty.insert 1 sceneWatcher }

theorem watchedState_initial
    (protocol : Protocol) : (lossMachine protocol 1).initial watchedState := by
  intro producer found
  have same : sceneWatcher = producer := Option.some.inj found
  rw [← same]
  exact ⟨rfl, rfl, rfl⟩

/-- The state after some commits of the watching producer. -/
def afterCommits
    (protocol : Protocol) :
    Nat → State
  | 0 => watchedState
  | commits + 1 =>
      (advanceScene protocol (afterCommits protocol commits) 1
        .producerCommit).1

/-- The watching producer's history after some commits. -/
def commitHistory
    (protocol : Protocol)
    (commits : Nat) : Option (List Emission) :=
  ((afterCommits protocol commits).producers.find? 1).map Producer.emissions

theorem reachable_afterCommits
    (protocol : Protocol)
    (guard : State → LossEvent → Prop)
    (commits : Nat)
    (allowed : ∀ earlier < commits,
      guard (afterCommits protocol earlier) (.advanceScene .producerCommit)) :
    (lossMachine protocol 1).Reachable guard
      (afterCommits protocol commits) := by
  induction commits with
  | zero => exact .initial (watchedState_initial protocol)
  | succ commits ih =>
      have before := ih fun earlier below =>
        allowed earlier (by omega)
      refine .step before (allowed commits (by omega)) ?_
      rfl

/-- One loss is reported by the next event. -/
theorem firstLost_truthful_after_loss :
    let protocol := wellFormedProtocol fun _ sequence => sequence != 1
    ∃ producer,
      (afterCommits protocol 2).producers.find? 1 = some producer ∧
        Truthful .scene producer.emissions := by
  intro protocol
  have isSome : ((afterCommits protocol 2).producers.find? 1).isSome = true :=
    by decide +kernel
  obtain ⟨producer, found⟩ := Option.isSome_iff_exists.mp isSome
  refine ⟨producer, found, firstLost_truthful protocol .scene 1 ?_ found⟩
  apply reachable_afterCommits
  intro earlier below _ producer revision sequence first found _ record _
    advanced
  have early : earlier = 0 ∨ earlier = 1 := by omega
  rcases early with rfl | rfl
  · have noRecord : (((afterCommits protocol 0).producers.find? 1).bind
        Producer.firstLostSceneSequence) = none := by decide +kernel
    rw [found] at noRecord
    simp [record] at noRecord
  · have counter : ((afterCommits protocol 1).producers.find? 1).map
        Producer.observationSequence = some 1 := by decide +kernel
    rw [found] at counter
    rw [Option.some.inj counter] at advanced
    have second : sequence = 2 := (Option.some.inj advanced).symm
    rw [second]
    exact ⟨rfl, rfl⟩

/-- The second loss in a row moves the reported start forward. -/
theorem second_loss_replaces_first :
    let protocol := wellFormedProtocol fun _ sequence => decide (2 < sequence)
    ∃ state producer,
      (lossMachine protocol 1).Reachable (fun _ _ => True) state ∧
        state.producers.find? 1 = some producer ∧
        ¬ Truthful .scene producer.emissions := by
  intro protocol
  have history : commitHistory protocol 3 =
      some [.scene 3 (some 2) true, .scene 2 (some 1) false,
        .scene 1 none false] := by decide +kernel
  obtain ⟨producer, found, emissions⟩ := Option.map_eq_some_iff.mp history
  refine ⟨afterCommits protocol 3, producer, ?_, found, ?_⟩
  · exact reachable_afterCommits protocol _ 3 fun _ _ => trivial
  · intro truthful
    have reported := truthful [] (.scene 3 (some 2) true)
      [.scene 2 (some 1) false, .scene 1 none false] (some 2) emissions rfl
    exact absurd reported (by decide)

end Media
end Vvmux
