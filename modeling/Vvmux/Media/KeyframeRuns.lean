import Vvmux.Media.EndOfStream
import Vvmux.Media.Histories

/-!
# Runs of key-frame requests

A request for a key frame is damped while a `NEED_KEYFRAME` is outstanding that
demands as much.  The demand stands in the records that were written; the
source keeps its minimum epoch and its reason.
-/

namespace Vvmux
namespace Media

open Library

variable (protocol : Protocol)

/-! ## Histories -/

/-- What concerns the key frames of a source: a `NEED_KEYFRAME` was written, a
request damped, a video packet accepted, or a `FLUSH` performed. -/
inductive KeyframeNote where
  | demanded (minimum : Nat) (reason : KeyframeReason)
  | damped (minimum : Nat) (reason : KeyframeReason)
  | packet (epoch : Nat) (key clears : Bool)
  | flushed (epoch : Nat)
deriving DecidableEq

/-- A key packet satisfies a demand whose minimum epoch it reaches. -/
def satisfy
    (demand : Option (Nat × KeyframeReason))
    (epoch : Nat)
    (key : Bool) : Option (Nat × KeyframeReason) :=
  demand.filter fun demand => !key || decide (epoch < demand.1)

/-- The last `NEED_KEYFRAME` that no accepted key packet satisfied. -/
def unsatisfied : List KeyframeNote → Option (Nat × KeyframeReason)
  | [] => none
  | .demanded minimum reason :: _ => some (minimum, reason)
  | .damped _ _ :: earlier => unsatisfied earlier
  | .packet epoch key _ :: earlier => satisfy (unsatisfied earlier) epoch key
  | .flushed _ :: earlier => unsatisfied earlier

/-- The last `NEED_KEYFRAME` that no accepted key packet satisfied, where a
`FLUSH` behind it names the minimum epoch anew. -/
def awaited : List KeyframeNote → Option (Nat × KeyframeReason)
  | [] => none
  | .demanded minimum reason :: _ => some (minimum, reason)
  | .damped _ _ :: earlier => awaited earlier
  | .packet epoch key _ :: earlier => satisfy (awaited earlier) epoch key
  | .flushed epoch :: earlier =>
      (awaited earlier).map fun demand => (epoch, demand.2)

/-- A demand covers a request. -/
def Covers
    (demand : Option (Nat × KeyframeReason))
    (minimum : Nat)
    (reason : KeyframeReason) : Prop :=
  ∃ demanded pending, demand = some (demanded, pending) ∧
    minimum ≤ demanded ∧
    (pending = .transportLoss → reason = .transportLoss)

/-- Demands grow, damped requests are covered, and packets clear a
desynchronization only if they reach the minimum epoch. -/
def DemandsKept : List KeyframeNote → Prop
  | [] => True
  | .demanded minimum _ :: earlier =>
      (∀ demand, awaited earlier = some demand → demand.1 ≤ minimum) ∧
        DemandsKept earlier
  | .damped minimum reason :: earlier =>
      Covers (awaited earlier) minimum reason ∧ DemandsKept earlier
  | .packet epoch _ clears :: earlier =>
      (clears = true → ∀ demand, awaited earlier = some demand →
        demand.1 ≤ epoch) ∧ DemandsKept earlier
  | .flushed _ :: earlier => DemandsKept earlier

variable {note : KeyframeNote}

theorem DemandsKept.earlier
    {earlier : List KeyframeNote}
    (kept : DemandsKept (note :: earlier)) : DemandsKept earlier := by
  cases note with
  | demanded minimum reason => exact kept.2
  | damped minimum reason => exact kept.2
  | packet epoch key clears => exact kept.2
  | flushed epoch => exact kept

theorem DemandsKept.behind
    {later earlier : List KeyframeNote}
    (kept : DemandsKept (later ++ earlier)) : DemandsKept earlier := by
  induction later with
  | nil => exact kept
  | cons note rest ih =>
      exact ih kept.earlier

/-- A demand that no packet satisfied and no `FLUSH` lowered is still awaited,
if not a greater one. -/
theorem DemandsKept.awaited
    {between before : List KeyframeNote}
    {minimum : Nat}
    {reason : KeyframeReason}
    (kept : DemandsKept (between ++ .demanded minimum reason :: before))
    (unanswered : ∀ epoch clears,
      KeyframeNote.packet epoch true clears ∈ between → epoch < minimum)
    (raised : ∀ epoch, KeyframeNote.flushed epoch ∈ between →
      minimum ≤ epoch) :
    ∃ demand, awaited (between ++ .demanded minimum reason :: before) =
      some demand ∧ minimum ≤ demand.1 := by
  induction between with
  | nil => exact ⟨(minimum, reason), rfl, Nat.le_refl _⟩
  | cons note rest ih =>
      obtain ⟨demand, isAwaited, atLeast⟩ := ih kept.earlier
        (fun epoch clears inside =>
          unanswered epoch clears (List.mem_cons_of_mem _ inside))
        (fun epoch inside => raised epoch (List.mem_cons_of_mem _ inside))
      cases note with
      | demanded greater other =>
          exact ⟨(greater, other), rfl,
            atLeast.trans (kept.1 demand isAwaited)⟩
      | damped _ _ => exact ⟨demand, isAwaited, atLeast⟩
      | packet epoch key clears =>
          refine ⟨demand, ?_, atLeast⟩
          simp only [List.cons_append, Media.awaited, isAwaited, satisfy]
          cases key with
          | false => rfl
          | true =>
              have below := unanswered epoch clears (List.mem_cons_self ..)
              rw [Option.filter_some, if_pos]
              simpa using below.trans_le atLeast
      | flushed epoch =>
          refine ⟨(epoch, demand.2), ?_, raised epoch (List.mem_cons_self ..)⟩
          simp only [List.cons_append, Media.awaited, isAwaited,
            Option.map_some]

/-! ## What is noted -/

/-- A request for a key frame. -/
abbrev KeyframeRequest := SourceKey × Option Nat × KeyframeReason

/-- What is noted of a request: the `NEED_KEYFRAME` it writes, or that it is
damped, with the minimum epoch it computes. -/
def requestNotes
    (state : State)
    (request : KeyframeRequest) : List (SourceName × KeyframeNote) :=
  match state.sources.find? request.1 with
  | none => []
  | some source =>
      let after := requestKeyframe protocol state request.1 request.2.1
        request.2.2
      let reason := normalizeKeyframeReason request.2.2
      let minimum := requestedEpoch (protocol.epoch source.sequence)
        request.2.1 reason
      let noted : List KeyframeNote :=
        if state.outbox.length < after.outbox.length then
          match after.outbox with
          | (_, .needKeyframe _ epoch reason) :: _ => [.demanded epoch reason]
          | _ => []
        else if source.descriptor.isVideo && !source.ended &&
            keyframeDamped source minimum reason then
          [.damped minimum reason]
        else []
      noted.map (Prod.mk (request.1, source.serial))

/-- What is noted of requests, one after the other. -/
def requestsNotes :
    State → List KeyframeRequest → List (SourceName × KeyframeNote)
  | _, [] => []
  | state, request :: rest =>
      requestsNotes
          (requestKeyframe protocol state request.1 request.2.1 request.2.2)
          rest ++
        requestNotes protocol state request

/-- What is noted of a packet that the media sequence of its source took: its
epoch, whether it is a key packet, and whether it clears the
desynchronization. -/
def packetNotes
    (source : Source)
    (projected : Bool)
    (body : MediaBody)
    (after : Option Source) : List KeyframeNote :=
  match body with
  | .video (.ok packet) =>
      if after.any fun after => after.sequence != source.sequence then
        [.packet packet.epoch packet.key
          (source.bridgeDesynchronized &&
            !(absorbVideo source projected packet
              source.sequence).source.bridgeDesynchronized)]
      else []
  | _ => []

/-- What is noted of a step. -/
def observeKeyframes
    (presenter : Presenter)
    (event : PresenterEvent) : List (SourceName × KeyframeNote) :=
  let state := presenter.shared
  match event with
  | .requestKeyframes requests => requestsNotes protocol state requests
  | .recover thread =>
      match presenter.phase? thread with
      | some (.recovering ticket) =>
          requestNotes protocol state (ticket.source, none, .transportLoss)
      | _ => []
  | .ingest thread now _ =>
      match presenter.phase? thread with
      | some (.validated ticket record) =>
          match state.sources.find? ticket.source with
          | none => []
          | some source =>
              (packetNotes source (state.isProjected ticket.source)
                record.body
                ((ingestRecord protocol state ticket.source record
                  now).1.sources.find? ticket.source)).map
                    (Prod.mk (ticket.source, source.serial))
      | _ => []
  | .run thread _ _ =>
      match presenter.phase? thread with
      | some (.busy _ (.flush key epoch _)) =>
          match state.sources.find? key with
          | none => []
          | some source => [((key, source.serial), .flushed epoch)]
      | _ => []
  | _ => []

/-! ## One source -/

/-- A source keeps the demand that is awaited, and is desynchronized until it
is satisfied. -/
structure Source.Awaits
    (source : Source)
    (history : List KeyframeNote) : Prop where
  awaited : awaited history =
    source.pendingKeyframeReason.map fun reason =>
      (source.minimumEpoch, reason)
  desynchronized : source.pendingKeyframeReason.isSome = true →
    source.bridgeDesynchronized = true

variable {history : List KeyframeNote} {source : Source} {projected : Bool}
  {state : State} {key : SourceKey} {notes : List (SourceName × KeyframeNote)}
  {presenter : Presenter}

theorem Source.Awaits.kept
    {before after : Source}
    (awaits : before.Awaits history)
    (kept : before.KeyframeKept after) : after.Awaits history := by
  constructor
  · rw [kept.pending, kept.minimumEpoch]
    exact awaits.awaited
  · rw [kept.pending]
    exact fun pending => kept.desynchronized (awaits.desynchronized pending)

theorem Source.awaits_of_quiet
    (quiet : source.pendingKeyframeReason = none) : source.Awaits [] := by
  constructor
  · rw [quiet]
    rfl
  · intro pending
    rw [quiet] at pending
    cases pending

/-- An accepted packet satisfies the demand of its source if it ends its
desynchronization, and else leaves it. -/
theorem Source.Awaits.absorbVideo
    (awaits : source.Awaits history)
    (projected : Bool)
    (packet : VideoPacket)
    (sequence : MediaSequence)
    (clears : Bool) :
    (absorbVideo source projected packet sequence).source.Awaits
      (.packet packet.epoch packet.key clears :: history) := by
  have isAwaited := awaits.awaited
  have lost := awaits.desynchronized
  cases recovers : source.bridgeDesynchronized &&
      decide (source.minimumEpoch ≤ packet.epoch) && packet.key with
  | true =>
      obtain ⟨⟨-, reaches⟩, isKey⟩ : (source.bridgeDesynchronized = true ∧
          source.minimumEpoch ≤ packet.epoch) ∧ packet.key = true := by
        simpa using recovers
      unfold Media.absorbVideo
      simp only [recovers, if_true]
      constructor
      · rw [Media.awaited, isAwaited]
        cases source.pendingKeyframeReason with
        | none => rfl
        | some reason =>
            simp only [satisfy, Option.map_some, Option.filter_some, isKey,
              Bool.not_true, Bool.false_or, decide_eq_true_eq,
              if_neg (Nat.not_lt.mpr reaches), Option.map_none]
      · intro pending
        cases pending
  | false =>
      have stays : Media.awaited
          (.packet packet.epoch packet.key clears :: history) =
            source.pendingKeyframeReason.map fun reason =>
              (source.minimumEpoch, reason) := by
        rw [Media.awaited, isAwaited]
        cases pending : source.pendingKeyframeReason with
        | none => rfl
        | some reason =>
            rw [lost (by rw [pending]; rfl), Bool.true_and] at recovers
            simp only [satisfy, Option.map_some, Option.filter_some]
            rw [if_pos]
            cases isKey : packet.key with
            | false => rfl
            | true =>
                rw [isKey, Bool.and_true, decide_eq_false_iff_not] at recovers
                simpa using recovers
      unfold Media.absorbVideo
      simp only [recovers]
      rw [if_neg Bool.false_ne_true]
      split
      · exact ⟨stays, fun _ => rfl⟩
      · exact ⟨stays, lost⟩

/-- A packet that clears a desynchronization reaches the minimum epoch. -/
theorem minimumEpoch_le_of_clears
    {packet : VideoPacket}
    {sequence : MediaSequence}
    (clears : (source.bridgeDesynchronized &&
      !(absorbVideo source projected packet
        sequence).source.bridgeDesynchronized) = true) :
    source.minimumEpoch ≤ packet.epoch := by
  rw [Bool.and_eq_true, Bool.not_eq_true'] at clears
  obtain ⟨lost, cleared⟩ := clears
  unfold absorbVideo at cleared
  simp only at cleared
  split at cleared
  · rename_i recovers
    simp only [Bool.and_eq_true, decide_eq_true_eq] at recovers
    exact recovers.1.2
  · split at cleared
    · cases cleared
    · rw [lost] at cleared
      cases cleared

/-! ## Requests -/

/-- The source keeps what was demanded of its producer. -/
def Source.demanding
    (source : Source)
    (minimum : Nat)
    (reason : KeyframeReason) : Source :=
  { source with
    minimumEpoch := minimum
    pendingKeyframeReason := some reason
    bridgeDesynchronized := true }

/-- A request changes nothing, and is noted at most as damped, or it writes
the demand that its source then keeps. -/
theorem requestKeyframe_cases
    (found : state.sources.find? key = some source)
    (requested : Option Nat)
    (requestedReason : KeyframeReason) :
    let request : KeyframeRequest := (key, requested, requestedReason)
    let reason := normalizeKeyframeReason requestedReason
    let minimum := requestedEpoch (protocol.epoch source.sequence) requested
      reason
    let demanded := max source.minimumEpoch minimum
    let emitted := emittedReason source.pendingKeyframeReason reason
    (requestKeyframe protocol state key requested requestedReason = state ∧
        (requestNotes protocol state request = [] ∨
          keyframeDamped source minimum reason = true ∧
            requestNotes protocol state request =
              [((key, source.serial), .damped minimum reason)])) ∨
      requestKeyframe protocol state key requested requestedReason =
          (state.updateSource key fun source =>
            source.demanding demanded emitted).write key.producer
              (.needKeyframe key.object demanded emitted) ∧
        requestNotes protocol state request =
          [((key, source.serial), .demanded demanded emitted)] := by
  intro request reason minimum demanded emitted
  unfold requestNotes
  simp only [request, found]
  unfold requestKeyframe
  rw [found]
  dsimp only
  split
  · rename_i unfit
    refine .inl ⟨rfl, .inl ?_⟩
    rw [if_neg (Nat.lt_irrefl _), if_neg]
    · rfl
    · rw [Bool.or_eq_true, Bool.not_eq_true'] at unfit
      rcases unfit with other | ended
      · rw [other]
        exact Bool.false_ne_true
      · rw [ended, Bool.not_true, Bool.and_false]
        exact Bool.false_ne_true
  · rename_i fit
    have isFit : (source.descriptor.isVideo && !source.ended) = true := by
      rw [Bool.not_eq_true, Bool.or_eq_false_iff, Bool.not_eq_false'] at fit
      rw [fit.1, fit.2]
      rfl
    split
    · rename_i damped
      refine .inl ⟨rfl, .inr ⟨damped, ?_⟩⟩
      rw [if_neg (Nat.lt_irrefl _), isFit, Bool.true_and, if_pos damped]
      rfl
    · rename_i undamped
      split
      · refine .inl ⟨rfl, .inl ?_⟩
        rw [if_neg (Nat.lt_irrefl _), isFit, Bool.true_and, if_neg undamped]
        rfl
      · refine .inr ⟨rfl, ?_⟩
        rw [if_pos]
        · rfl
        · exact Nat.lt_succ_self _

/-- The sources and their histories belong together. -/
structure Tracked
    (state : State)
    (notes : List (SourceName × KeyframeNote)) : Prop where
  awaits : Recorded Source.Awaits state notes
  kept : ∀ name, DemandsKept (concerning name notes)

theorem Tracked.evolves
    {before after : State}
    (tracked : Tracked before notes)
    (evolves : Evolves Source.KeyframeKept before after) :
    Tracked after notes where
  awaits := tracked.awaits.evolves evolves (fun _ _ kept => kept.serial)
    fun _ _ _ kept awaits => awaits.kept kept
  kept := tracked.kept

/-- A source is rewritten and evolves with the others, and one thing is noted
of it. -/
theorem Tracked.rewrite
    {before after : State}
    {source rewritten : Source}
    (tracked : Tracked before notes)
    (found : before.sources.find? key = some source)
    (same : rewritten.serial = source.serial)
    (drifts : Drifts (before.updateSource key fun _ => rewritten) after)
    (awaits : rewritten.Awaits
      (note :: concerning (key, source.serial) notes))
    (kept : DemandsKept (note :: concerning (key, source.serial) notes)) :
    Tracked after ([note].map (Prod.mk (key, source.serial)) ++ notes) where
  awaits := tracked.awaits.rewrite found same
    (drifts.weaken fun _ _ drift => drift.keyframe)
    (fun _ _ kept => kept.serial) (fun _ _ _ kept awaits => awaits.kept kept)
    fun _ => awaits
  kept := concerning_forall_note tracked.kept kept

theorem Tracked.request
    (tracked : Tracked state notes)
    (request : KeyframeRequest) :
    Tracked
      (requestKeyframe protocol state request.1 request.2.1 request.2.2)
      (requestNotes protocol state request ++ notes) := by
  obtain ⟨key, requested, requestedReason⟩ := request
  cases found : state.sources.find? key with
  | none =>
      have same : requestKeyframe protocol state key requested
          requestedReason = state := by
        unfold requestKeyframe
        rw [found]
      have unnoted : requestNotes protocol state
          (key, requested, requestedReason) = [] := by
        unfold requestNotes
        simp only [found]
      rw [same, unnoted]
      exact tracked
  | some source =>
      have awaits := tracked.awaits key source found
      have kept := tracked.kept (key, source.serial)
      rcases requestKeyframe_cases protocol found requested
          requestedReason with
        ⟨same, unnoted | ⟨damped, noted⟩⟩ | ⟨written, noted⟩
      · rw [same, unnoted]
        exact tracked
      · rw [same, noted]
        refine tracked.rewrite found rfl (drifts_rewriteSame found)
          ⟨awaits.awaited, awaits.desynchronized⟩ ⟨?_, kept⟩
        unfold keyframeDamped at damped
        cases isPending : source.pendingKeyframeReason with
        | none =>
            rw [isPending] at damped
            cases damped
        | some pending =>
            simp only [isPending, Option.any_some, Bool.and_eq_true,
              decide_eq_true_eq, Bool.not_eq_true', Bool.and_eq_false_iff,
              beq_eq_false_iff_ne, bne_eq_false_iff_eq] at damped
            refine ⟨source.minimumEpoch, pending, ?_, damped.1, ?_⟩
            · rw [awaits.awaited, isPending]
              rfl
            · intro lost
              exact damped.2.resolve_left (not_not.mpr lost)
      · rw [written, noted]
        generalize isMax : max source.minimumEpoch
          (requestedEpoch (protocol.epoch source.sequence) requested
            (normalizeKeyframeReason requestedReason)) = demanded
        generalize emittedReason source.pendingKeyframeReason
          (normalizeKeyframeReason requestedReason) = emitted
        have same : (state.updateSource key fun source =>
            source.demanding demanded emitted) =
            state.updateSource key fun _ => source.demanding demanded emitted :=
          State.updateSource_congr found rfl
        rw [same]
        refine tracked.rewrite found ?_ (drifts_of_eq rfl)
          ⟨rfl, fun _ => rfl⟩ ⟨?_, kept⟩
        · rfl
        · intro demand isAwaited
          rw [awaits.awaited] at isAwaited
          obtain ⟨_, -, rfl⟩ := Option.map_eq_some_iff.mp isAwaited
          rw [← isMax]
          exact Nat.le_max_left _ _

theorem Tracked.requests
    (tracked : Tracked state notes)
    (requests : List KeyframeRequest) :
    Tracked
      (requests.foldl
        (fun state request =>
          requestKeyframe protocol state request.1 request.2.1 request.2.2)
        state)
      (requestsNotes protocol state requests ++ notes) := by
  induction requests generalizing state notes with
  | nil => exact tracked
  | cons request rest ih =>
      have later := ih (tracked.request protocol request)
      rw [← List.append_assoc] at later
      exact later

/-! ## Packets and flushes -/

variable {after : Option Source}

/-- Only a video packet that the media sequence took is noted. -/
theorem packetNotes_eq_nil
    {body : MediaBody}
    (untaken : (∀ parsed, body ≠ .video parsed) ∨
      ∀ last, after = some last → last.sequence = source.sequence) :
    packetNotes source projected body after = [] := by
  unfold packetNotes
  split
  · rcases untaken with other | same
    · exact absurd rfl (other _)
    · rw [if_neg]
      intro changed
      cases after with
      | none => cases changed
      | some last =>
          rw [Option.any_some, same last rfl, bne_self_eq_false] at changed
          cases changed
  · rfl

/-- What a record makes of its source and of its history. -/
theorem Source.Awaits.ingests
    {protocol : Protocol}
    {source paid middle : Source}
    {record : MediaRecord}
    {now : Nat}
    {outcome : Except String Ingested}
    (awaits : source.Awaits history)
    (kept : DemandsKept history)
    (drift : source.Drifts paid)
    (ingests : paid.Ingests protocol record now projected middle outcome)
    (settled : ∀ last, after = some last →
      last.sequence = middle.sequence) :
    DemandsKept (packetNotes source projected record.body after ++
        history) ∧
      (after.isSome = true → middle.Awaits
        (packetNotes source projected record.body after ++ history)) := by
  have paidAwaits := awaits.kept drift.keyframe
  have unnoted : middle.Awaits history →
      packetNotes source projected record.body after = [] →
      DemandsKept (packetNotes source projected record.body after ++
          history) ∧
        (after.isSome = true → middle.Awaits
          (packetNotes source projected record.body after ++ history)) := by
    intro still none
    rw [none]
    exact ⟨kept, fun _ => still⟩
  cases ingests with
  | refused _ _ further _ =>
      exact unnoted (paidAwaits.kept further.keyframe)
        (packetNotes_eq_nil (.inr fun last isLast =>
          (settled last isLast).trans
            (further.sequence.trans drift.sequence)))
  | rejected config body reason notify _ isRaster isFrame prepares rejects =>
      refine unnoted ⟨paidAwaits.awaited, paidAwaits.desynchronized⟩
        (packetNotes_eq_nil (.inl fun parsed same => ?_))
      cases isFrame.symm.trans same
  | raster config body prepared _ _ isRaster isFrame accepted keeps sequence
      retains _ =>
      refine unnoted (paidAwaits.kept keeps)
        (packetNotes_eq_nil (.inl fun parsed same => ?_))
      cases isFrame.symm.trans same
  | image config body _ _ isImage isData keeps =>
      refine unnoted (paidAwaits.kept keeps)
        (packetNotes_eq_nil (.inl fun parsed same => ?_))
      cases isData.symm.trans same
  | audio config packet _ _ isAudio isPacket keeps =>
      refine unnoted (paidAwaits.kept keeps)
        (packetNotes_eq_nil (.inl fun parsed same => ?_))
      cases isPacket.symm.trans same
  | video config packet sequence _ _ isVideo isPacket accepted keeps absorbs =>
      cases after with
      | none =>
          rw [packetNotes_eq_nil (.inr fun last isLast => by cases isLast)]
          exact ⟨kept, fun some => by cases some⟩
      | some last =>
          have changed : last.sequence ≠ source.sequence := by
            obtain ⟨entry, longer⟩ := accept_ok accepted
            rw [settled last rfl, absorbs, longer, drift.sequence]
            exact List.cons_ne_self _ _
          rw [isPacket]
          unfold packetNotes
          simp only [Option.any_some, bne_iff_ne.mpr changed, if_true]
          refine ⟨⟨fun clears demand isAwaited => ?_, kept⟩, fun _ =>
            (paidAwaits.absorbVideo projected packet sequence _).kept keeps⟩
          obtain ⟨_, -, rfl⟩ := Option.map_eq_some_iff.mp
            (awaits.awaited.symm.trans isAwaited)
          exact minimumEpoch_le_of_clears clears

theorem Source.Awaits.flushed
    (awaits : source.Awaits history)
    (epoch : Nat)
    (causation : Option Nat) :
    (source.flushed epoch causation).Awaits (.flushed epoch :: history) := by
  constructor
  · rw [Media.awaited, awaits.awaited, Option.map_map]
    rfl
  · exact fun _ => rfl

variable {writable : Bool}

theorem Tracked.ingest
    {presenter after : Presenter}
    {thread now : Nat}
    (tracked : Tracked presenter.shared notes)
    (stepped : presenterStep protocol presenter
      (.ingest thread now writable) = some after) :
    Tracked after.shared
      (observeKeyframes protocol presenter (.ingest thread now writable) ++
        notes) := by
  obtain ⟨ticket, record, validated, drifts⟩ := drifts_ingest protocol stepped
  simp only [observeKeyframes, validated]
  refine Tracked.evolves ?_ (drifts.weaken fun _ _ drift => drift.keyframe)
  cases found : presenter.shared.sources.find? ticket.source with
  | none =>
      rw [ingestRecord_missing protocol found]
      exact tracked
  | some source =>
      dsimp only
      obtain ⟨paid, middle, drift, ingests, settling⟩ :=
        ingestRecord_source protocol found record now
      generalize ingestRecord protocol presenter.shared ticket.source record
        now = ingested at *
      obtain ⟨kept, awaits⟩ := (tracked.awaits _ source found).ingests
        (tracked.kept (ticket.source, source.serial)) drift ingests
        fun last isLast => by
          obtain ⟨old, here, further⟩ := settling _ last isLast
          rw [find?_updateSource_self found] at here
          cases here
          exact further.sequence
      exact
        ⟨tracked.awaits.rewrite found
            (ingests.identity.1.trans drift.raster.serial)
            (settling.weaken fun _ _ further => further.keyframe)
            (fun _ _ kept => kept.serial)
            (fun _ _ _ kept awaits => awaits.kept kept)
            fun present => awaits
              ((OrderedMap.find?_isSome_iff _ _).mpr present),
          concerning_forall_note tracked.kept kept⟩

theorem Tracked.flush
    {presenter after : Presenter}
    {thread : Nat}
    {circumstance : Circumstance}
    {producer : ProducerId}
    {epoch : Nat}
    {envelope : Envelope}
    (tracked : Tracked presenter.shared notes)
    (busy : presenter.phase? thread =
      some (.busy producer (.flush key epoch envelope)))
    (stepped : presenterStep protocol presenter
      (.run thread circumstance writable) = some after) :
    Tracked after.shared
      (observeKeyframes protocol presenter
        (.run thread circumstance writable) ++ notes) := by
  have drifts := drifts_flush protocol busy stepped
  simp only [observeKeyframes, busy]
  cases found : presenter.shared.sources.find? key with
  | none =>
      refine tracked.evolves (Evolves.compose
        (fun _ _ _ => Source.KeyframeKept.trans) ?_
        (drifts.weaken fun _ _ drift => drift.keyframe))
      apply evolves_updateSource Source.KeyframeKept.refl
      intro source there
      cases found.symm.trans there
  | some source =>
      have same : (presenter.shared.updateSource key fun source =>
            source.flushed epoch envelope.causation) =
          presenter.shared.updateSource key fun _ =>
            source.flushed epoch envelope.causation :=
        State.updateSource_congr found rfl
      rw [same] at drifts
      refine tracked.rewrite found ?_ drifts
        ((tracked.awaits key source found).flushed epoch envelope.causation)
        (tracked.kept (key, source.serial))
      rfl

/-! ## Steps -/

/-- A step that steers no source is not noted. -/
theorem observeKeyframes_eq_nil
    {event : PresenterEvent}
    (other : presenter.steers event = false) :
    observeKeyframes protocol presenter event = [] := by
  unfold Presenter.steers at other
  unfold observeKeyframes
  dsimp only
  split
  · cases other
  · cases other
  · cases other
  · split
    · rename_i flushing
      simp only [flushing] at other
      cases other
    · rfl
  · rfl

theorem Tracked.step
    {presenter after : Presenter}
    {event : PresenterEvent}
    {notes : List (SourceName × KeyframeNote)}
    (tracked : Tracked presenter.shared notes)
    (past : ∀ note ∈ notes, note.1.2 < presenter.shared.created)
    (stepped : presenterStep protocol presenter event = some after) :
    Tracked after.shared
      (observeKeyframes protocol presenter event ++ notes) := by
  cases steers : presenter.steers event with
  | false =>
      obtain ⟨middle, born, drifts⟩ :=
        passes_presenterStep protocol stepped steers
      rw [observeKeyframes_eq_nil protocol steers]
      have entered : Tracked middle notes :=
        ⟨tracked.awaits.born born past fun _ _ quiet =>
          Source.awaits_of_quiet quiet, tracked.kept⟩
      exact entered.evolves (drifts.weaken fun _ _ drift => drift.keyframe)
  | true =>
      unfold Presenter.steers at steers
      split at steers
      · exact tracked.ingest protocol stepped
      · rw [shared_requestKeyframes protocol stepped]
        exact tracked.requests protocol _
      · obtain ⟨ticket, recovering, same⟩ := shared_recover protocol stepped
        rw [same]
        simp only [observeKeyframes, recovering]
        exact tracked.request protocol (ticket.source, none, .transportLoss)
      · split at steers
        · rename_i producer task busy
          cases task with
          | flush key epoch envelope =>
              exact tracked.flush protocol busy stepped
          | _ => cases steers
        · cases steers
      · cases steers

/-- What is noted concerns sources that were created. -/
theorem past_requestNotes
    (numbered : Numbered state)
    (request : KeyframeRequest) :
    ∀ note ∈ requestNotes protocol state request,
      note.1.2 < state.created := by
  intro note noted
  unfold requestNotes at noted
  split at noted
  · cases noted
  · rename_i source found
    obtain ⟨_, -, rfl⟩ := List.mem_map.mp noted
    exact numbered _ source found

theorem past_requestsNotes
    (numbered : Numbered state)
    (requests : List KeyframeRequest) :
    ∀ note ∈ requestsNotes protocol state requests,
      note.1.2 < state.created := by
  induction requests generalizing state with
  | nil => exact fun _ noted => absurd noted List.not_mem_nil
  | cons request rest ih =>
      have quiet := quiet_requestKeyframe protocol state request.1 request.2.1
        request.2.2
      intro note noted
      rcases List.mem_append.mp noted with later | earlier
      · rw [← quiet.created]
        exact ih (numbered.change (.quiet quiet)) note later
      · exact past_requestNotes protocol numbered request note earlier

theorem past_observeKeyframes
    (numbered : Numbered presenter.shared)
    (event : PresenterEvent) :
    ∀ note ∈ observeKeyframes protocol presenter event,
      note.1.2 < presenter.shared.created := by
  intro note noted
  unfold observeKeyframes at noted
  dsimp only at noted
  split at noted
  · exact past_requestsNotes protocol numbered _ note noted
  · split at noted
    · exact past_requestNotes protocol numbered _ note noted
    · cases noted
  · split at noted
    · split at noted
      · cases noted
      · rename_i source found
        obtain ⟨_, -, rfl⟩ := List.mem_map.mp noted
        exact numbered _ source found
    · cases noted
  · split at noted
    · split at noted
      · cases noted
      · rename_i source found
        rw [List.mem_singleton] at noted
        rw [noted]
        exact numbered _ source found
    · cases noted
  · cases noted

/-! ## Runs -/

/-- The state of the presenter beside what was noted on the way to it. -/
structure Demanding
    (run : Presenter × List (SourceName × KeyframeNote)) : Prop where
  numbered : Numbered run.1.shared
  past : ∀ note ∈ run.2, note.1.2 < run.1.shared.created
  tracked : Tracked run.1.shared run.2

theorem Demanding.start
    (config : Config)
    (events : Bool) : Demanding (.start config events, []) where
  numbered := by
    intro key source found
    cases (OrderedMap.find?_empty key).symm.trans found
  past note noted := absurd noted List.not_mem_nil
  tracked := by
    refine ⟨?_, fun _ => trivial⟩
    intro key source found
    cases (OrderedMap.find?_empty key).symm.trans found

theorem Demanding.step
    {presenter after : Presenter}
    {event : PresenterEvent}
    {notes : List (SourceName × KeyframeNote)}
    (demanding : Demanding (presenter, notes))
    (stepped : presenterStep protocol presenter event = some after) :
    Demanding
      (after, observeKeyframes protocol presenter event ++ notes) := by
  obtain ⟨counts, numbered⟩ :=
    numbered_presenterStep protocol stepped demanding.numbered
  refine ⟨numbered, ?_,
    demanding.tracked.step protocol demanding.past stepped⟩
  intro note noted
  rcases List.mem_append.mp noted with new | old
  · exact (past_observeKeyframes protocol demanding.numbered event note
      new).trans_le counts
  · exact (demanding.past note old).trans_le counts

/-- A request is damped only while a `NEED_KEYFRAME` is outstanding that
covers it, where a `FLUSH` behind it names the minimum epoch anew; and between
a `NEED_KEYFRAME` and its satisfaction no key packet of a lesser epoch clears
the desynchronization, unless a `FLUSH` names a lesser epoch. -/
theorem damped_requests_are_covered
    {config : Config}
    {run : Presenter × List (SourceName × KeyframeNote)}
    (reachable : ((presenterMachine protocol config).observed
      (observeKeyframes protocol)).Reachable (fun _ _ => True) run)
    (name : SourceName) :
    (∀ later minimum reason earlier,
      concerning name run.2 = later ++ .damped minimum reason :: earlier →
      Covers (awaited earlier) minimum reason) ∧
    ∀ later epoch key between minimum reason before,
      concerning name run.2 = later ++ .packet epoch key true ::
        (between ++ .demanded minimum reason :: before) →
      (∀ other clears, KeyframeNote.packet other true clears ∈ between →
        other < minimum) →
      (∀ other, KeyframeNote.flushed other ∈ between → minimum ≤ other) →
      minimum ≤ epoch := by
  have demanding : Demanding run := by
    refine reachable.invariant ?_ ?_
    · rintro ⟨start, notes⟩ ⟨⟨events, rfl⟩, rfl⟩
      exact .start config events
    · rintro ⟨before, notes⟩ event ⟨after, later⟩ demanding - ⟨stepped, rfl⟩
      exact demanding.step protocol stepped
  have kept := demanding.tracked.kept name
  constructor
  · intro later minimum reason earlier history
    rw [history] at kept
    exact kept.behind.1
  · intro later epoch key between minimum reason before history unanswered
      raised
    rw [history] at kept
    obtain ⟨demand, isAwaited, atLeast⟩ :=
      kept.behind.2.awaited unanswered raised
    exact atLeast.trans (kept.behind.1 rfl demand isAwaited)

/-! ### Runs of one video -/

/-- The history of video 4 of producer 1 in a run. -/
def videoHistory (events : List PresenterEvent) : Option (List KeyframeNote) :=
  let protocol := wellFormedProtocol fun _ _ => true
  (Machine.follow
    (Machine.observing (presenterStep protocol) (observeKeyframes protocol))
    (fun _ _ => true) (.start .standard false, [])
    (connecting ++ creatingVideo ++ events)).map fun run =>
      concerning (⟨1, 4⟩, 0) run.2

theorem reachable_videoHistory
    {events : List PresenterEvent}
    (noted : videoHistory events = some history) :
    let protocol := wellFormedProtocol fun _ _ => true
    ∃ run, ((presenterMachine protocol .standard).observed
        (observeKeyframes protocol)).Reachable (fun _ _ => True) run ∧
      concerning (⟨1, 4⟩, 0) run.2 = history := by
  intro protocol
  obtain ⟨run, followed, isHistory⟩ := Option.map_eq_some_iff.mp noted
  refine ⟨run, ?_, isHistory⟩
  exact Machine.Reachable.follow
    (fun _ _ _ => Machine.observed_observing fun _ _ _ stepped => stepped)
    (fun _ _ _ => trivial) (.initial ⟨⟨false, rfl⟩, rfl⟩) followed

/-- The session requests a key frame of video 4. -/
def requestingKeyframe
    (minimum : Option Nat)
    (reason : KeyframeReason) : List PresenterEvent :=
  [.requestKeyframes [(⟨1, 4⟩, minimum, reason)]]

/-- Producer 1 flushes video 4. -/
def flushingVideo (epoch : Nat) : List PresenterEvent :=
  controlling 4 (.flush (.ok (plainEnvelope, 4, epoch))) 2

/-- A request that is damped by the demand before it, which a key packet then
satisfies. -/
theorem damped_requests_are_covered_once :
    let protocol := wellFormedProtocol fun _ _ => true
    ∃ run, ((presenterMachine protocol .standard).observed
        (observeKeyframes protocol)).Reachable (fun _ _ => True) run ∧
      concerning (⟨1, 4⟩, 0) run.2 =
        [.packet 1 true true, .damped 0 .transportLoss,
          .demanded 1 .decoderError] ∧
      Covers (awaited [.demanded 1 .decoderError]) 0 .transportLoss := by
  intro protocol
  have noted : videoHistory (requestingKeyframe (some 1) .decoderError ++
      requestingKeyframe none .transportLoss ++ receivingPacket 1) =
      some [.packet 1 true true, .damped 0 .transportLoss,
        .demanded 1 .decoderError] := by
    decide +kernel
  obtain ⟨run, reachable, history⟩ := reachable_videoHistory noted
  exact ⟨run, reachable, history,
    (damped_requests_are_covered protocol reachable (⟨1, 4⟩, 0)).1
      [.packet 1 true true] 0 .transportLoss [.demanded 1 .decoderError]
      history⟩

/-- A `FLUSH` has a part in the demands: behind one to epoch 5 a request for
epoch 3 is damped where only epoch 1 was demanded, and behind one to epoch 3 a
key packet of that epoch clears the desynchronization where epoch 6 was
demanded. -/
theorem flush_names_minimum :
    let protocol := wellFormedProtocol fun _ _ => true
    (∃ run later earlier,
      ((presenterMachine protocol .standard).observed
        (observeKeyframes protocol)).Reachable (fun _ _ => True) run ∧
      concerning (⟨1, 4⟩, 0) run.2 =
        later ++ .damped 3 .decoderError :: earlier ∧
      unsatisfied earlier = some (1, .decoderError) ∧
      ¬ Covers (unsatisfied earlier) 3 .decoderError) ∧
    ∃ run later earlier,
      ((presenterMachine protocol .standard).observed
        (observeKeyframes protocol)).Reachable (fun _ _ => True) run ∧
      concerning (⟨1, 4⟩, 0) run.2 = later ++ .packet 3 true true :: earlier ∧
      unsatisfied earlier = some (6, .decoderError) := by
  intro protocol
  have raised : videoHistory (requestingKeyframe (some 1) .decoderError ++
      flushingVideo 5 ++ requestingKeyframe (some 3) .decoderError) =
      some [.damped 3 .decoderError, .flushed 5,
        .demanded 1 .decoderError] := by
    decide +kernel
  have lowered : videoHistory (requestingKeyframe (some 6) .decoderError ++
      flushingVideo 3 ++ receivingPacket 3) =
      some [.packet 3 true true, .flushed 3, .demanded 6 .decoderError] := by
    decide +kernel
  obtain ⟨first, reachableFirst, historyFirst⟩ :=
    reachable_videoHistory raised
  obtain ⟨second, reachableSecond, historySecond⟩ :=
    reachable_videoHistory lowered
  refine ⟨⟨first, [], _, reachableFirst, historyFirst, rfl, ?_⟩,
    second, [], _, reachableSecond, historySecond, rfl⟩
  rintro ⟨demanded, pending, isDemand, reaches, -⟩
  cases isDemand
  omega

end Media
end Vvmux
