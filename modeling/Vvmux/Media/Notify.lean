import Vvmux.Media.State

/-!
# Revisions and notifications

Every change of a source or a scene advances a revision and tells the
producer about it.  A counter that is exhausted, or an event that cannot be
encoded, ends the call with an error after the revision has moved.
-/

namespace Vvmux
namespace Media

open Library

variable (protocol : Protocol)

/-- `advance_projection` -/
def advanceProjection (state : State) : State :=
  { state with
    projectionRevision :=
      saturatingAdd u64Max state.projectionRevision 1 }

/-- `playback_snapshot` of a timed source. -/
def playbackSnapshot (source : Source) : PlaybackSnapshot where
  phase :=
    if source.playing then .playing
    else if source.ended then .ended
    else .paused
  clockPtsUs := source.lastPtsUs.getD source.playRequest.startPtsUs
  epoch := protocol.epoch source.sequence
  eosAccepted := source.ended

/-! ## Events for a producer's observation queue -/

/-- `try_send` of an event to a producer's observation queue: the event is
queued, or the producer's record of losses changes. -/
def offer
    (state : State)
    (producerId : ProducerId)
    (sequence : Nat)
    (event : Reply)
    (emission : Bool → Emission)
    (lost : Producer → Producer) : State :=
  if protocol.enqueues producerId sequence then
    (state.updateProducer producerId fun producer =>
      { producer with emissions := emission true :: producer.emissions }).write
        producerId event
  else
    state.updateProducer producerId fun producer =>
      lost { producer with emissions := emission false :: producer.emissions }

/-- `first_lost_scene_sequence.get_or_insert(sequence)` -/
def Producer.loseScene (sequence : Nat) (producer : Producer) : Producer :=
  { producer with
    firstLostSceneSequence :=
      producer.firstLostSceneSequence.or (some sequence) }

/-- `first_lost_source_sequence.get_or_insert(sequence)` -/
def Producer.loseSource (sequence : Nat) (producer : Producer) : Producer :=
  { producer with
    firstLostSourceSequence :=
      producer.firstLostSourceSequence.or (some sequence) }

/-- Offer a scene event, if there is one. -/
def offerScene
    (state : State)
    (producerId : ProducerId)
    (revision : Nat)
    (reason : SceneReason) :
    Option (Nat × Option Nat) → State
  | none => state
  | some (sequence, firstLost) =>
      offer protocol state producerId sequence
        (.sceneChanged revision reason sequence firstLost)
        (.scene sequence firstLost) (Producer.loseScene sequence)

section

variable (state : State) (key : SourceKey)

/-- Offer a source event, if there is one. -/
def offerSource
    (revision : Nat)
    (changed : List SourceChange) :
    Option (Nat × Option Nat) → State
  | none => state
  | some (sequence, firstLost) =>
      offer protocol state key.producer sequence
        (.sourceChanged key.object revision changed sequence firstLost)
        (.source sequence firstLost) (Producer.loseSource sequence)

/-- Offer a playback event, if there is one.  Its loss counts as one of a
source event. -/
def offerPlayback
    (source : Source) :
    Option Nat → State
  | none => state
  | some sequence =>
      offer protocol state key.producer sequence
        (.playbackState key.object source.revision sequence
          (playbackSnapshot protocol source))
        (.playback sequence) (Producer.loseSource sequence)

/-- Number a scene event and take the recorded loss into it, if the producer
observes scene changes. -/
def numberScene
    (producer : Producer)
    (revision : Nat)
    (reason : SceneReason) :
    Producer × Except String (Option (Nat × Option Nat)) :=
  if producer.observationMask.contains .sceneChanges then
    match protocol.advance producer.observationSequence with
    | none => (producer, .error "observation sequence exhausted")
    | some sequence =>
        let firstLost := producer.firstLostSceneSequence
        ({ producer with
            observationSequence := sequence
            firstLostSceneSequence := none },
          (protocol.encode
            (.sceneChanged revision reason sequence firstLost)).map
              fun _ => some (sequence, firstLost))
  else (producer, .ok none)

/-- Number a source event and take the recorded loss into it, if the producer
observes source transitions. -/
def numberSource
    (producer : Producer)
    (key : SourceKey)
    (revision : Nat)
    (changed : List SourceChange) :
    Producer × Except String (Option (Nat × Option Nat)) :=
  if producer.observationMask.contains .sourceTransitions then
    match protocol.advance producer.observationSequence with
    | none => (producer, .error "observation sequence exhausted")
    | some sequence =>
        let firstLost := producer.firstLostSourceSequence
        ({ producer with
            observationSequence := sequence
            firstLostSourceSequence := none },
          (protocol.encode
            (.sourceChanged key.object revision changed sequence
              firstLost)).map fun _ => some (sequence, firstLost))
  else (producer, .ok none)

/-- Number a playback event, if the producer observes them and the source has
a playback to report. -/
def numberPlayback
    (producer : Producer)
    (key : SourceKey)
    (source : Source)
    (changed : List SourceChange) : Producer × Except String (Option Nat) :=
  if changed.contains .playback &&
      producer.observationMask.contains .playbackTransitions &&
      source.descriptor.isTimed then
    match protocol.advance producer.observationSequence with
    | none => (producer, .error "observation sequence exhausted")
    | some sequence =>
        ({ producer with observationSequence := sequence },
          (protocol.encode
            (.playbackState key.object source.revision sequence
              (playbackSnapshot protocol source))).map
                fun _ => some sequence)
  else (producer, .ok none)

/-- `advance_scene` -/
def advanceScene
    (state : State)
    (producerId : ProducerId)
    (reason : SceneReason) : State × Except String Unit :=
  match state.producers.find? producerId with
  | none => (state, .error "producer missing")
  | some producer =>
      match protocol.advance producer.sceneRevision with
      | none => (state, .error "scene revision exhausted")
      | some revision =>
          let numbered := numberScene protocol
            { producer with sceneRevision := revision } revision reason
          let changed := state.updateProducer producerId fun _ => numbered.1
          match numbered.2 with
          | .error text => (changed, .error text)
          | .ok event =>
              (offerScene protocol changed producerId revision reason event,
                .ok ())

/-- `u64 as i64` -/
def asI64 (value : Nat) : Int :=
  if value < 2 ^ 63 then value else (value : Int) - 2 ^ 64

/-- `i64::MIN` -/
def i64Min : Int := -(2 ^ 63)

/-- Whether a source meets the condition of a wait. -/
def waitReached (source : Source) (wait : PendingSourceWait) : Bool :=
  match wait.condition with
  | .sourceRevision => wait.value.getD u64Max ≤ source.revision
  | .firstVisiblePresentation =>
      source.milestones.contains .firstVisiblePresentation
  | .rasterFrame =>
      source.descriptor.isRaster &&
        decide (wait.value.getD u64Max ≤ source.lastMediaId)
  | .videoPts =>
      source.descriptor.isVideo &&
        decide (asI64 (wait.value.getD u64Max) ≤
          source.lastPtsUs.getD i64Min)
  | .playbackStarted => source.milestones.contains .playbackStarted
  | .playbackEnded => source.milestones.contains .playbackEnded
  | .mediaAttached => source.attachmentState != .never
  | .mediaClosed => source.attachmentState == .closed
  | .sourceLost => source.milestones.contains .sourceLost
  | .other _ => false

/-- `evaluate_wait`: the observed value, once the condition is met. -/
def evaluateWait
    (source : Source)
    (wait : PendingSourceWait) : Option (Option Nat) :=
  if waitReached source wait then
    some (match wait.condition with
      | .sourceRevision => some source.revision
      | .rasterFrame => some source.lastMediaId
      | .videoPts => source.lastPtsUs.map fun pts => (max pts 0).toNat
      | _ => none)
  else none

/-- The reply to a wait that is satisfied. -/
def waitReply
    (request : Nat)
    (key : SourceKey)
    (revision : Nat)
    (wait : PendingSourceWait)
    (observed : Option Nat) : Reply :=
  .waitSatisfied request key.object revision wait.condition observed

/-- Remove the producer's waits that the source satisfies.  The source a wait
names is not compared with the source that changed. -/
def settleWaits
    (producer : Producer)
    (key : SourceKey)
    (source : Source) : Producer × List Reply :=
  ({ producer with
      waits := producer.waits.filter fun _ wait =>
        (evaluateWait source wait).isNone },
    producer.waits.entries.filterMap fun entry =>
      (evaluateWait source entry.2).bind fun observed =>
        let reply := waitReply entry.1 key source.revision entry.2 observed
        match protocol.encode reply with
        | .ok _ => some reply
        | .error _ => none)

/-- The part of `advance_source` behind the revision: observations of the
producer, then its waits. -/
def notifySource
    (source : Source)
    (changed : List SourceChange) : State × Except String Nat :=
  match state.producers.find? key.producer with
  | none => (state, .error "producer missing")
  | some producer =>
      let first := numberSource protocol producer key source.revision changed
      match first.2 with
      | .error text =>
          (state.updateProducer key.producer fun _ => first.1, .error text)
      | .ok event =>
          let second := numberPlayback protocol first.1 key source changed
          match second.2 with
          | .error text =>
              (state.updateProducer key.producer fun _ => second.1,
                .error text)
          | .ok playback =>
              let settled := settleWaits protocol second.1 key source
              let told := state.updateProducer key.producer fun _ => settled.1
              let sent :=
                offerSource protocol told key source.revision changed event
              let played :=
                offerPlayback protocol sent key source playback
              (if producer.connected then
                  settled.2.foldl (·.write key.producer ·) played
                else played,
                .ok source.revision)

/-- `advance_source` -/
def advanceSource
    (changed : List SourceChange) : State × Except String Nat :=
  match state.sources.find? key with
  | none => (state, .error "source missing")
  | some source =>
      match protocol.advance source.revision with
      | none => (state, .error "source revision exhausted")
      | some revision =>
          notifySource protocol
            (state.updateSource key fun source =>
              { source with revision := revision })
            key { source with revision := revision } changed

/-- `emit_source_event` -/
def emitSourceEvent
    (changed : List SourceChange) : State × Except String Unit :=
  match state.sources.find? key with
  | none => (state, .error "source missing")
  | some source =>
      match state.producers.find? key.producer with
      | none => (state, .error "producer missing")
      | some producer =>
          let numbered :=
            numberSource protocol producer key source.revision changed
          let told := state.updateProducer key.producer fun _ => numbered.1
          match numbered.2 with
          | .error text => (told, .error text)
          | .ok event =>
              (offerSource protocol told key source.revision changed event,
                .ok ())

end

/-! ## What a notification leaves alone -/

/-- A source that at most moved to another revision. -/
def Source.Revised (before after : Source) : Prop :=
  after = { before with revision := after.revision }

/-- A producer that at most observed events and lost satisfied waits. -/
structure Producer.Told (before after : Producer) : Prop where
  pane : after.pane = before.pane
  tag : after.tag = before.tag
  anchorKey : after.anchorKey = before.anchorKey
  connected : after.connected = before.connected
  features : after.features = before.features
  anchors : after.anchors = before.anchors
  seenAnchors : after.seenAnchors = before.seenAnchors
  observationMask : after.observationMask = before.observationMask
  waits : ∀ request wait, after.waits.find? request = some wait →
    before.waits.find? request = some wait

/-- Two states that differ at most in revisions, in what producers were told,
and in the records written. -/
structure Notified (before after : State) : Prop where
  producers : before.producers.Related Producer.Told after.producers
  sources : before.sources.Related Source.Revised after.sources
  others : after =
    { before with
      producers := after.producers
      sources := after.sources
      projectionRevision := after.projectionRevision
      outbox := after.outbox }

theorem Source.Revised.refl (source : Source) : source.Revised source :=
  rfl

theorem Source.Revised.trans
    {first second third : Source}
    (before : first.Revised second)
    (after : second.Revised third) : first.Revised third := by
  unfold Source.Revised at *
  rw [after, before]

theorem Producer.Told.refl (producer : Producer) : producer.Told producer := by
  constructor
  case waits => exact fun _ _ found => found
  all_goals rfl

theorem Producer.Told.trans
    {first second third : Producer}
    (before : first.Told second)
    (after : second.Told third) : first.Told third where
  pane := after.pane.trans before.pane
  tag := after.tag.trans before.tag
  anchorKey := after.anchorKey.trans before.anchorKey
  connected := after.connected.trans before.connected
  features := after.features.trans before.features
  anchors := after.anchors.trans before.anchors
  seenAnchors := after.seenAnchors.trans before.seenAnchors
  observationMask := after.observationMask.trans before.observationMask
  waits := by
    intro request wait found
    exact before.waits request wait (after.waits request wait found)

theorem Notified.refl (state : State) : Notified state state where
  producers := .refl Producer.Told.refl _
  sources := .refl Source.Revised.refl _
  others := rfl

theorem Notified.trans
    {first second third : State}
    (before : Notified first second)
    (after : Notified second third) : Notified first third where
  producers := before.producers.trans
    (fun _ _ _ => Producer.Told.trans) after.producers
  sources := before.sources.trans
    (fun _ _ _ => Source.Revised.trans) after.sources
  others := by
    rw [after.others, before.others]

variable (state : State) (producer : Producer)

theorem notified_write
    (producer : ProducerId)
    (reply : Reply) : Notified state (state.write producer reply) where
  producers := .refl Producer.Told.refl _
  sources := .refl Source.Revised.refl _
  others := rfl

theorem notified_writeIfConnected
    (producer : ProducerId)
    (reply : Reply) :
    Notified state (state.writeIfConnected producer reply) := by
  unfold State.writeIfConnected
  split
  · exact notified_write state producer reply
  · exact Notified.refl state

theorem notified_writes
    (producer : ProducerId)
    (replies : List Reply) :
    Notified state (replies.foldl (·.write producer ·) state) := by
  induction replies generalizing state with
  | nil => exact Notified.refl state
  | cons reply rest ih =>
      exact (notified_write state producer reply).trans
        (ih _)

theorem notified_advanceProjection
    (state : State) : Notified state (advanceProjection state) where
  producers := .refl Producer.Told.refl _
  sources := .refl Source.Revised.refl _
  others := rfl

variable (producerId : ProducerId)

/-- Rewriting a producer into one that was told something is a
notification. -/
theorem notified_updateProducer
    (change : Producer → Producer)
    (told : ∀ producer, state.producers.find? producerId = some producer →
      producer.Told (change producer)) :
    Notified state (state.updateProducer producerId change) where
  producers := OrderedMap.related_modify Producer.Told.refl _ _ _ told
  sources := .refl Source.Revised.refl _
  others := rfl

theorem notified_setProducer
    {producerId : ProducerId}
    {producer told : Producer}
    (found : state.producers.find? producerId = some producer)
    (related : producer.Told told) :
    Notified state (state.updateProducer producerId fun _ => told) := by
  apply notified_updateProducer
  intro value here
  rw [found] at here
  rw [← Option.some.inj here]
  exact related

variable (sequence : Nat)

theorem told_loseScene
    (producer : Producer) : producer.Told (producer.loseScene sequence) :=
  { Producer.Told.refl producer with }

theorem told_loseSource
    (producer : Producer) : producer.Told (producer.loseSource sequence) :=
  { Producer.Told.refl producer with }

theorem notified_offer
    (event : Reply)
    (emission : Bool → Emission)
    {lost : Producer → Producer}
    (told : ∀ producer, Producer.Told producer (lost producer)) :
    Notified state
      (offer protocol state producerId sequence event emission lost) := by
  unfold offer
  split
  · refine (notified_updateProducer state producerId _ ?_).trans
      (notified_write _ _ _)
    intro producer _
    exact { Producer.Told.refl producer with }
  · apply notified_updateProducer
    intro producer _
    have recorded : producer.Told
        { producer with emissions := emission false :: producer.emissions } :=
      { Producer.Told.refl producer with }
    exact recorded.trans (told _)

theorem notified_offerScene
    (revision : Nat)
    (reason : SceneReason)
    (event : Option (Nat × Option Nat)) :
    Notified state
      (offerScene protocol state producerId revision reason event) := by
  cases event with
  | none => exact Notified.refl state
  | some event =>
      exact notified_offer protocol _ _ _ _ _ (told_loseScene event.1)

variable (key : SourceKey)

theorem notified_offerSource
    (revision : Nat)
    (changed : List SourceChange)
    (event : Option (Nat × Option Nat)) :
    Notified state
      (offerSource protocol state key revision changed event) := by
  cases event with
  | none => exact Notified.refl state
  | some event =>
      exact notified_offer protocol _ _ _ _ _ (told_loseSource event.1)

variable (source : Source)

theorem notified_offerPlayback
    (playback : Option Nat) :
    Notified state (offerPlayback protocol state key source playback) := by
  cases playback with
  | none => exact Notified.refl state
  | some sequence =>
      exact notified_offer protocol _ _ _ _ _ (told_loseSource sequence)

theorem told_numberScene
    (revision : Nat)
    (reason : SceneReason) :
    producer.Told (numberScene protocol producer revision reason).1 := by
  unfold numberScene
  split
  · split
    · exact Producer.Told.refl producer
    · exact { Producer.Told.refl producer with }
  · exact Producer.Told.refl producer

theorem told_numberSource
    (revision : Nat)
    (changed : List SourceChange) :
    producer.Told (numberSource protocol producer key revision changed).1 := by
  unfold numberSource
  split
  · split
    · exact Producer.Told.refl producer
    · exact { Producer.Told.refl producer with }
  · exact Producer.Told.refl producer

variable (changed : List SourceChange)

theorem told_numberPlayback :
    producer.Told (numberPlayback protocol producer key source changed).1 := by
  unfold numberPlayback
  split
  · split
    · exact Producer.Told.refl producer
    · exact { Producer.Told.refl producer with }
  · exact Producer.Told.refl producer

theorem told_settleWaits :
    producer.Told (settleWaits protocol producer key source).1 := by
  have waits : ∀ request wait,
      (settleWaits protocol producer key source).1.waits.find? request =
        some wait →
      producer.waits.find? request = some wait := by
    intro request wait found
    simp only [settleWaits, OrderedMap.find?_filter] at found
    exact Option.eq_some_of_filter_eq_some found
  exact { Producer.Told.refl producer with waits := waits }

theorem notified_advanceScene
    (reason : SceneReason) :
    Notified state (advanceScene protocol state producerId reason).1 := by
  unfold advanceScene
  split
  · exact Notified.refl state
  · rename_i producer found
    split
    · exact Notified.refl state
    · rename_i revision advanced
      have revised : producer.Told
          { producer with sceneRevision := revision } :=
        { Producer.Told.refl producer with }
      have updated := notified_setProducer state found
        (revised.trans (told_numberScene protocol
          { producer with sceneRevision := revision } revision reason))
      simp only
      split
      · exact updated
      · exact updated.trans (notified_offerScene protocol _ _ _ _ _)

theorem notified_notifySource :
    Notified state (notifySource protocol state key source changed).1 := by
  unfold notifySource
  split
  · exact Notified.refl state
  · rename_i producer found
    have first := told_numberSource protocol producer key source.revision
      changed
    simp only
    split
    · exact notified_setProducer state found first
    · have second := first.trans
        (told_numberPlayback protocol _ key source changed)
      split
      · exact notified_setProducer state found second
      · have updated := notified_setProducer state found
          (second.trans (told_settleWaits protocol _ key source))
        rename_i event _ _ playback _
        have sent := updated.trans
          (notified_offerSource protocol _ key source.revision changed event)
        have played := sent.trans
          (notified_offerPlayback protocol _ key source playback)
        simp only
        split
        · exact played.trans (notified_writes _ _ _)
        · exact played

theorem notified_advanceSource :
    Notified state (advanceSource protocol state key changed).1 := by
  unfold advanceSource
  split
  · exact Notified.refl state
  · split
    · exact Notified.refl state
    · rename_i revision advanced
      refine Notified.trans ?_ (notified_notifySource protocol _ _ _ _)
      refine { Notified.refl state with sources := ?_, others := rfl }
      apply OrderedMap.related_modify Source.Revised.refl
      intro _ _
      rfl

theorem notified_emitSourceEvent :
    Notified state (emitSourceEvent protocol state key changed).1 := by
  unfold emitSourceEvent
  split
  · exact Notified.refl state
  · split
    · exact Notified.refl state
    · rename_i source _ _ producer found
      have updated := notified_setProducer state found
        (told_numberSource protocol producer key source.revision changed)
      simp only
      split
      · exact updated
      · exact updated.trans (notified_offerSource protocol _ _ _ _ _)

end Media
end Vvmux
