import Vvmux.Media.Accounting
import Vvmux.Media.Ingested

/-!
# Records that are refused

A call of `ingest_record` can fail before its source takes the record over,
and after it.  A failure before leaves the media state of the source as it
was; every later one comes when the record is entered already.
-/

namespace Vvmux
namespace Media

open Library

variable (protocol : Protocol)

/-! ## A whole call -/

/-- What `ingest_record` does behind its first lock: an event goes to the
queue, or its credit is written back, with `written` what becomes of that
write, and a key frame is asked for. -/
def finishIngest
    (state : State)
    (key : SourceKey)
    (taken : Bool)
    (written : Except String Unit) :
    Ingested → State × Except String Unit
  | .rejected _ _ _ => (state, .ok ())
  | .accepted (some event) _ =>
      if taken then (state, .ok ())
      else
        let dropped := dropQueued state key event.deliveryId
        match written with
        | .error text => (dropped.1, .error text)
        | .ok _ =>
            (if dropped.2 then
              requestKeyframe protocol dropped.1 key none .transportLoss
            else dropped.1,
              .ok ())
  | .accepted none keyframe =>
      match written with
      | .error text => (state, .error text)
      | .ok _ =>
          (if keyframe then
            requestKeyframe protocol state key none .transportLoss
          else state,
            .ok ())

/-- `ingest_record`, when no other thread takes the lock in between. -/
def ingestCall
    (state : State)
    (key : SourceKey)
    (record : MediaRecord)
    (now : Nat)
    (taken : Bool)
    (written : Except String Unit) : State × Except String Unit :=
  match validateEncodedImage state key record with
  | .error text => (state, .error text)
  | .ok _ =>
      let ingested := ingestRecord protocol state key record now
      match ingested.2 with
      | .error text => (ingested.1, .error text)
      | .ok outcome =>
          finishIngest protocol ingested.1 key taken written outcome

/-! ## The media state of a source -/

/-- What a source knows of its media, without its credit. -/
structure SourceMedia where
  retained : Option Retained
  retainedBytes : Nat
  sequence : MediaSequence
  lastMediaId : Nat
  lastPtsUs : Option Int
  milestones : List Milestone
  bridgeDesynchronized : Bool
  pendingKeyframeReason : Option KeyframeReason
  rasterRequiresFullReason : Option FullFrameReason
deriving DecidableEq

def Source.media (source : Source) : SourceMedia where
  retained := source.retained
  retainedBytes := source.retainedBytes
  sequence := source.sequence
  lastMediaId := source.lastMediaId
  lastPtsUs := source.lastPtsUs
  milestones := source.milestones
  bridgeDesynchronized := source.bridgeDesynchronized
  pendingKeyframeReason := source.pendingKeyframeReason
  rasterRequiresFullReason := source.rasterRequiresFullReason

/-- The media state of a source beside the global counters. -/
structure MediaAccount where
  source : Option SourceMedia
  retainedBytes : Nat
  queuedBridgeBytes : Nat
deriving DecidableEq

def State.mediaAccount (state : State) (key : SourceKey) : MediaAccount where
  source := (state.sources.find? key).map Source.media
  retainedBytes := state.retainedBytes
  queuedBridgeBytes := state.queuedBridgeBytes

/-! ## What is refused early -/

/-- The source does not take the record: it cannot be parsed, is too large,
comes twice or out of sequence, or belongs to another kind of source. -/
def Source.declines
    (source : Source)
    (record : MediaRecord)
    (now : Nat) : Bool :=
  match source.descriptor, record.body with
  | .raster config, .raster body =>
      !(prepareRaster protocol source config body now).isOk
  | .image config, .image _ =>
      source.retained.isSome || record.length != config.encodedLength.toNat
  | .video config, .video (.ok packet) =>
      decide (config.maxAccessUnitBytes < packet.dataLength) ||
        !(protocol.acceptMedia source.sequence packet.packetId
          packet.epoch).isOk
  | .audio config, .audio (.ok packet) =>
      decide (config.maxAccessUnitBytes < packet.dataLength) ||
        !(protocol.acceptMedia source.sequence packet.packetId
          packet.epoch).isOk
  | _, _ => true

/-- Retaining some bytes in place of a source's own exceeds the quota. -/
def State.exceedsQuota (state : State) (source : Source) (bytes : Nat) : Bool :=
  decide (state.config.aggregateRetainedBytes <
    state.retainedBytes - source.retainedBytes + bytes)

/-- The body exceeds the quota, and nothing of the record was noted before:
a raster frame is prepared beside its source, and an image was counted by an
earlier call. -/
def State.refusesBody
    (state : State)
    (source : Source)
    (record : MediaRecord)
    (now : Nat) : Bool :=
  match source.descriptor, record.body with
  | .raster config, .raster body =>
      match prepareRaster protocol source config body now with
      | .ok (.accepted prepared) => state.exceedsQuota source prepared.length
      | _ => false
  | .image _, .image _ =>
      source.lastMediaId == 1 && state.exceedsQuota source record.length
  | _, _ => false

/-- The counts of charged credit have room for a record. -/
def Source.countsRecord (source : Source) (bytes : Nat) : Bool :=
  decide (source.chargedBytes + bytes ≤ u64Max) &&
    decide (source.chargedPackets + 1 ≤ u64Max)

/-- The record is refused before the source takes it over: the source is
gone, the image is invalid, the credit does not suffice, the source declines
the record, or its body exceeds the quota unnoted. -/
def State.refusesEarly
    (state : State)
    (key : SourceKey)
    (record : MediaRecord)
    (now : Nat) : Bool :=
  match state.sources.find? key with
  | none => true
  | some source =>
      !(validateEncodedImage state key record).isOk ||
        !source.affords record.length ||
        !source.countsRecord record.length ||
        source.declines protocol record now ||
        state.refusesBody protocol source record now

/-! ## Payment -/

theorem media_charge
    (source : Source)
    (bytes : Nat) : (source.charge bytes).media = source.media :=
  rfl

theorem declines_charge
    (source : Source)
    (bytes : Nat)
    (record : MediaRecord)
    (now : Nat) :
    (source.charge bytes).declines protocol record now =
      source.declines protocol record now :=
  rfl

/-- A change of a source that keeps its media keeps the account. -/
theorem mediaAccount_updateSource
    (state : State)
    (key : SourceKey)
    (change : Source → Source)
    (keeps : ∀ source, state.sources.find? key = some source →
      (change source).media = source.media) :
    (state.updateSource key change).mediaAccount key =
      state.mediaAccount key := by
  have same : (((state.updateSource key change).sources.find? key).map
      Source.media) = (state.sources.find? key).map Source.media := by
    simp only [State.updateSource, OrderedMap.find?_modify, if_pos]
    cases found : state.sources.find? key with
    | none => rfl
    | some source => exact congrArg some (keeps source found)
  unfold State.mediaAccount
  rw [same]
  rfl

/-- A payment either fails and costs at most credit, or charges its source. -/
theorem consumeSourceCredit_cases
    (state : State)
    (key : SourceKey)
    (bytes : Nat) :
    (∃ text, (consumeSourceCredit state key bytes).2 = .error text ∧
      (consumeSourceCredit state key bytes).1.mediaAccount key =
        state.mediaAccount key ∧
      ∀ source, state.sources.find? key = some source →
        (source.affords bytes && source.countsRecord bytes) = false) ∨
    ∃ source, state.sources.find? key = some source ∧
      source.affords bytes = true ∧ source.countsRecord bytes = true ∧
      consumeSourceCredit state key bytes =
        (state.updateSource key fun source => source.charge bytes,
          .ok ()) := by
  unfold consumeSourceCredit
  cases found : state.sources.find? key with
  | none => exact .inl ⟨_, rfl, rfl, by simp⟩
  | some source =>
      simp only
      split
      · rename_i short
        refine .inl ⟨_, rfl, rfl, ?_⟩
        intro other same
        cases same
        simp_all
      · rename_i paid
        have affords : source.affords bytes = true := by simpa using paid
        split
        · rename_i full
          refine .inl ⟨_, rfl,
            mediaAccount_updateSource _ _ _ fun _ _ => rfl, ?_⟩
          intro other same
          cases same
          have exceeds := checkedAdd_eq_none_iff.mp full
          simp only [Source.countsRecord]
          simp [affords, Nat.not_le.mpr exceeds]
        · rename_i charged counted
          obtain ⟨fits, rfl⟩ := checkedAdd_eq_some_iff.mp counted
          split
          · rename_i full
            refine .inl ⟨_, rfl,
              mediaAccount_updateSource _ _ _ fun _ _ => rfl, ?_⟩
            intro other same
            cases same
            have exceeds := checkedAdd_eq_none_iff.mp full
            simp only [Source.countsRecord]
            simp [Nat.not_le.mpr exceeds]
          · rename_i packets numbered
            obtain ⟨room, rfl⟩ := checkedAdd_eq_some_iff.mp numbered
            refine .inr ⟨source, rfl, affords, ?_, ?_⟩
            · simp [Source.countsRecord, fits, room]
            · congr 1
              exact State.updateSource_congr found rfl

/-! ## What a source takes over -/

/-- A record shows: the sequence of its source is another, or the body of a
static one. -/
def Source.Shows (after before : Source) : Prop :=
  after.sequence ≠ before.sequence ∨
    (after.descriptor.isStatic = true ∧ after.retained ≠ before.retained)

/-- A source accepts a record: whether the quota then refuses it unnoted, and
that it is noted once it is settled. -/
structure Source.Takes
    (source : Source)
    (record : MediaRecord)
    (now : Nat)
    (prepared : Option PreparedRaster)
    (absorbed : Absorbed) : Prop where
  accepts : source.declines protocol record now = false
  unnoted : ∀ state : State,
    state.exceedsQuota source (retainedLength absorbed.retained) = true →
      (absorbed.source.media = source.media ↔
        state.refusesBody protocol source record now = true)
  fits : ∀ state : State,
    state.exceedsQuota source (retainedLength absorbed.retained) = false →
      state.refusesBody protocol source record now = false
  noted : ∀ projected,
    ((absorbed.source.settleRecord projected prepared record).retain
      absorbed.retained).Shows source

/-- What `preparation` gives for a record whose preparation succeeded. -/
def prepares
    (source : Source)
    (record : MediaRecord)
    (now : Nat)
    (prepared : Option PreparedRaster) : Prop :=
  preparation protocol source record now =
    prepared.map fun prepared => .ok (.accepted prepared)

variable {mediaId epoch : Nat}

variable {protocol} in
theorem acceptMedia_isOk
    {sequence longer : MediaSequence}
    (accepted : protocol.accept sequence mediaId epoch = .ok longer) :
    (protocol.acceptMedia sequence mediaId epoch).isOk = true := by
  unfold Protocol.accept at accepted
  split at accepted
  · rename_i accepts
    rw [accepts]
    rfl
  · cases accepted

variable {source : Source} {absorbed : Absorbed} {record : MediaRecord}
  {now : Nat} {prepared : Option PreparedRaster} {text : String}
  {key : SourceKey} {state : State}

variable {entry : Nat × Nat}

/-- A record without a retained body leaves a longer sequence. -/
theorem noted_of_sequence
    (longer : absorbed.source.sequence = entry :: source.sequence)
    (nothing : absorbed.retained = none)
    (record : MediaRecord)
    (projected : Bool) :
    ((absorbed.source.settleRecord projected none record).retain
        absorbed.retained).sequence ≠ source.sequence := by
  rw [nothing]
  change absorbed.source.sequence ≠ source.sequence
  rw [longer]
  exact List.cons_ne_self _ _

theorem media_ne_of_sequence
    {before after : Source}
    (longer : after.sequence = entry :: before.sequence) :
    after.media ≠ before.media := by
  intro same
  have sequences := congrArg SourceMedia.sequence same
  rw [Source.media, Source.media, longer] at sequences
  exact List.cons_ne_self _ _ sequences

/-- A packet is noted as soon as its source accepts it. -/
theorem takes_packet
    (accepts : source.declines protocol record now = false)
    (never : ∀ state : State,
      state.refusesBody protocol source record now = false)
    (longer : absorbed.source.sequence = entry :: source.sequence)
    (nothing : absorbed.retained = none) :
    source.Takes protocol record now none absorbed where
  accepts := accepts
  unnoted state _ := by
    rw [never state]
    exact iff_of_false (media_ne_of_sequence longer) Bool.false_ne_true
  fits state _ := never state
  noted projected := .inl (noted_of_sequence longer nothing record projected)

variable {projected : Bool}

theorem absorb_takes
    (prepares : prepares protocol source record now prepared)
    (result : absorb protocol source projected prepared record =
      .ok absorbed) :
    source.Takes protocol record now prepared absorbed := by
  unfold absorb at result
  unfold Media.prepares preparation at prepares
  split at result
  · rename_i config body isRaster isFrame
    split at result
    · cases result
    · rename_i prepared
      cases result
      simp only [isRaster, isFrame, Option.map_some,
        Option.some.injEq] at prepares
      obtain ⟨entry, longer⟩ :=
        (prepareRaster_accepted protocol prepares).sequence
      constructor
      · simp only [Source.declines, isRaster, isFrame, prepares]
        rfl
      · intro state exceeds
        simp only [State.refusesBody, isRaster, isFrame, prepares]
        exact iff_of_true trivial exceeds
      · intro state fits
        simp only [State.refusesBody, isRaster, isFrame, prepares]
        exact fits
      · intro projected
        refine .inl ?_
        change prepared.sequence ≠ source.sequence
        rw [longer]
        exact List.cons_ne_self _ _
  · rename_i config body isImage isData
    simp only [isImage, isData] at prepares
    obtain rfl : prepared = none := by simpa using prepares.symm
    split at result
    · cases result
    · rename_i valid
      cases result
      rw [not_or, not_not] at valid
      have empty : source.retained = none := by simpa using valid.1
      constructor
      · simp [Source.declines, isImage, isData, empty, valid.2]
      · intro state exceeds
        simp only [State.refusesBody, isImage, isData]
        rw [Bool.and_eq_true, beq_iff_eq]
        constructor
        · intro same
          exact ⟨(congrArg SourceMedia.lastMediaId same).symm, exceeds⟩
        · rintro ⟨counted, -⟩
          simp only [Source.media, counted]
      · intro state fits
        simp only [State.refusesBody, isImage, isData]
        rw [Bool.and_eq_false_iff]
        exact .inr fits
      · intro projected
        refine .inr ⟨?_, ?_⟩
        · change source.descriptor.isStatic = true
          rw [isImage]
          rfl
        · rw [empty]
          exact Option.some_ne_none _
  · rename_i config parsed isVideo isPacket
    simp only [isVideo, isPacket] at prepares
    obtain rfl : prepared = none := by simpa using prepares.symm
    split at result
    · cases result
    · rename_i packet
      split at result
      · cases result
      · rename_i small
        split at result
        · cases result
        · rename_i sequence accepted
          obtain ⟨entry, longer⟩ := accept_ok accepted
          cases result
          refine takes_packet protocol ?_ ?_
            ((sequence_absorbVideo source projected packet sequence).trans
              longer)
            (retained_absorbVideo source projected packet sequence)
          · simp [Source.declines, isVideo, isPacket,
              acceptMedia_isOk accepted, Nat.le_of_not_lt small]
          · intro state
            simp only [State.refusesBody, isVideo, isPacket]
  · rename_i config parsed isAudio isPacket
    simp only [isAudio, isPacket] at prepares
    obtain rfl : prepared = none := by simpa using prepares.symm
    split at result
    · cases result
    · rename_i packet
      split at result
      · cases result
      · rename_i small
        split at result
        · cases result
        · rename_i sequence accepted
          obtain ⟨entry, longer⟩ := accept_ok accepted
          cases result
          refine takes_packet protocol ?_ ?_ longer rfl
          · simp [Source.declines, isAudio, isPacket,
              acceptMedia_isOk accepted, Nat.le_of_not_lt small]
          · intro state
            simp only [State.refusesBody, isAudio, isPacket]
  · cases result

theorem acceptMedia_not_isOk
    {sequence : MediaSequence}
    (refused : protocol.accept sequence mediaId epoch = .error text) :
    (protocol.acceptMedia sequence mediaId epoch).isOk = false := by
  unfold Protocol.accept at refused
  split at refused
  · cases refused
  · rename_i refuses
    rw [refuses]
    rfl

theorem absorb_declines
    (prepares : prepares protocol source record now prepared)
    (result : absorb protocol source projected prepared record =
      .error text) :
    source.declines protocol record now = true := by
  unfold absorb at result
  unfold Media.prepares preparation at prepares
  split at result
  · rename_i config body isRaster isFrame
    split at result
    · simp [isRaster, isFrame] at prepares
    · cases result
  · rename_i config body isImage isData
    split at result
    · rename_i invalid
      simpa [Source.declines, isImage, isData] using invalid
    · cases result
  · rename_i config parsed isVideo isPacket
    split at result
    · simp [Source.declines, isVideo, isPacket]
    · split at result
      · rename_i large
        simp [Source.declines, isVideo, isPacket, large]
      · split at result
        · rename_i refused
          simp [Source.declines, isVideo, isPacket,
            acceptMedia_not_isOk protocol refused]
        · cases result
  · rename_i config parsed isAudio isPacket
    split at result
    · simp [Source.declines, isAudio, isPacket]
    · split at result
      · rename_i large
        simp [Source.declines, isAudio, isPacket, large]
      · split at result
        · rename_i refused
          simp [Source.declines, isAudio, isPacket,
            acceptMedia_not_isOk protocol refused]
        · cases result
  · rename_i notRaster notImage notVideo notAudio
    unfold Source.declines
    split
    · rename_i isRaster isFrame
      exact (notRaster _ _ isRaster isFrame).elim
    · rename_i isImage isData
      exact (notImage _ _ isImage isData).elim
    · rename_i isVideo isPacket
      exact (notVideo _ _ isVideo isPacket).elim
    · rename_i isAudio isPacket
      exact (notAudio _ _ isAudio isPacket).elim
    · rfl

/-- A record whose preparation fails is declined. -/
theorem declines_of_preparation
    (failed : preparation protocol source record now = some (.error text)) :
    source.declines protocol record now = true := by
  unfold preparation at failed
  split at failed
  · rename_i config body isRaster isFrame
    simp only [Source.declines, isRaster, isFrame, Option.some.inj failed]
    rfl
  · cases failed

/-! ## What stays noted -/

/-- A record is entered: as far as its source is still there, it shows. -/
def Noted (before after : State) (key : SourceKey) : Prop :=
  ∃ old, before.sources.find? key = some old ∧
    ∀ new, after.sources.find? key = some new → new.Shows old

theorem Noted.behind
    {first second third : State}
    (noted : Noted first second key)
    (drifts : Drifts second third) : Noted first third key := by
  obtain ⟨old, found, shows⟩ := noted
  refine ⟨old, found, fun new after => ?_⟩
  obtain ⟨middle, there, drift⟩ := drifts key new after
  rcases shows middle there with sequence | ⟨static, retained⟩
  · refine .inl ?_
    rw [drift.sequence]
    exact sequence
  · refine .inr ⟨?_, ?_⟩
    · rw [drift.raster.descriptor]
      exact static
    · rw [drift.raster.retained static]
      exact retained

theorem Noted.mediaAccount_ne
    {before after : State}
    (noted : Noted before after key) :
    after.mediaAccount key ≠ before.mediaAccount key := by
  obtain ⟨old, found, shows⟩ := noted
  intro same
  have sources := congrArg MediaAccount.source same
  simp only [State.mediaAccount, found, Option.map_some] at sources
  obtain ⟨new, there, media⟩ := Option.map_eq_some_iff.mp sources
  rcases shows new there with sequence | ⟨-, retained⟩
  · exact sequence (congrArg SourceMedia.sequence media)
  · exact retained (congrArg SourceMedia.retained media)

/-! ## The dichotomy -/

/-- Behind the preparation a record is refused, and leaves no trace exactly if
it is refused early, or it is entered. -/
theorem ingestPrepared_dichotomy
    (found : state.sources.find? key = some source)
    (prepares : prepares protocol source record now prepared) :
    (∃ text,
      (ingestPrepared protocol state key record source prepared).2 =
        .error text ∧
      ((ingestPrepared protocol state key record source prepared).1.mediaAccount
          key = state.mediaAccount key ↔
        (source.declines protocol record now ||
          state.refusesBody protocol source record now) = true)) ∨
    ((source.declines protocol record now ||
        state.refusesBody protocol source record now) = false ∧
      Noted state
        (ingestPrepared protocol state key record source prepared).1 key) := by
  unfold ingestPrepared
  dsimp only
  split
  · rename_i text refused
    have declines := absorb_declines protocol prepares refused
    exact .inl ⟨text, rfl, iff_of_true rfl (by rw [declines]; rfl)⟩
  · rename_i absorbed accepted
    have takes := absorb_takes protocol prepares accepted
    have there := find?_updateSource_self found fun _ => absorbed.source
    split
    · rename_i exceeds
      refine .inl ⟨_, rfl, ?_⟩
      have exceeds : state.exceedsQuota source
          (retainedLength absorbed.retained) = true := decide_eq_true exceeds
      rw [takes.accepts, Bool.false_or, ← takes.unnoted state exceeds]
      constructor
      · intro same
        have sources := congrArg MediaAccount.source same
        simp only [State.mediaAccount, there, found, Option.map_some,
          Option.some.injEq] at sources
        exact sources
      · intro same
        have kept := mediaAccount_updateSource state key
          (fun _ => absorbed.source) (by
            intro other here
            cases found.symm.trans here
            exact same)
        exact kept
    · rename_i room
      have fits : state.exceedsQuota source
          (retainedLength absorbed.retained) = false := decide_eq_false room
      have settled : Noted state
          (((state.updateSource key fun _ =>
            absorbed.source).exchangeRetained source.retainedBytes
              (retainedLength absorbed.retained)).updateSource key fun _ =>
                (absorbed.source.settleRecord (state.isProjected key) prepared
                  record).retain absorbed.retained) key :=
        ⟨source, found, fun new after => by
          cases (find?_updateSource_self there _).symm.trans after
          exact takes.noted (state.isProjected key)⟩
      refine .inr ⟨by rw [takes.accepts, takes.fits state fits]; rfl, ?_⟩
      generalize (absorbed.source.settleRecord (state.isProjected key)
        prepared record).retain absorbed.retained = after at *
      generalize ((state.updateSource key fun _ =>
        absorbed.source).exchangeRetained source.retainedBytes
          (retainedLength absorbed.retained)).updateSource key
            (fun _ => after) = kept at *
      have hydrated : Drifts kept
          (if (after.descriptor.isImage &&
              decide (0 < retainedLength absorbed.retained) &&
              decide (source.retainedBytes = 0)) = true then
            advanceProjection kept
          else kept) := by
        split
        · exact (notified_advanceProjection kept).drifts
        · exact drifts_refl kept
      have told := hydrated.trans (drifts_advanceSource protocol _ key
        [.epoch, .milestones, .creditAccounting])
      split
      · exact settled.behind told
      · exact settled.behind
          (told.trans (drifts_deliverRecord _ _ _ _ _ _ _))

theorem refusesEarly_of_none
    (missing : state.sources.find? key = none)
    (record : MediaRecord)
    (now : Nat) : state.refusesEarly protocol key record now = true := by
  unfold State.refusesEarly
  rw [missing]

theorem refusesEarly_of_some
    (found : state.sources.find? key = some source)
    (record : MediaRecord)
    (now : Nat) :
    state.refusesEarly protocol key record now =
      (!(validateEncodedImage state key record).isOk ||
        !source.affords record.length ||
        !source.countsRecord record.length ||
        source.declines protocol record now ||
        state.refusesBody protocol source record now) := by
  unfold State.refusesEarly
  rw [found]

/-- What `ingest_record` does under its lock to a record that is valid: it
fails, leaving no trace exactly if it refuses early, or rejects a delta, or
enters the record. -/
theorem ingestRecord_cases
    (valid : (validateEncodedImage state key record).isOk = true)
    (now : Nat) :
    (∃ text, (ingestRecord protocol state key record now).2 = .error text ∧
      ((ingestRecord protocol state key record now).1.mediaAccount key =
          state.mediaAccount key ↔
        state.refusesEarly protocol key record now = true)) ∨
    (∃ reason notify credit,
      (ingestRecord protocol state key record now).2 =
        .ok (.rejected reason notify credit)) ∨
    (state.refusesEarly protocol key record now = false ∧
      Noted state (ingestRecord protocol state key record now).1 key) := by
  unfold ingestRecord
  dsimp only
  rcases consumeSourceCredit_cases state key record.length with
    ⟨text, failed, same, short⟩ | ⟨source, found, affords, counts, paid⟩
  · rw [failed]
    refine .inl ⟨text, rfl, iff_of_true same ?_⟩
    cases found : state.sources.find? key with
    | none => exact refusesEarly_of_none protocol found record now
    | some source =>
        rw [refusesEarly_of_some protocol found]
        have lacks := short source found
        revert lacks
        cases source.affords record.length <;>
          cases source.countsRecord record.length <;> simp
  · have there := find?_updateSource_self found
      fun source => source.charge record.length
    have account := mediaAccount_updateSource state key
      (fun source => source.charge record.length)
      fun source _ => media_charge source record.length
    have early : state.refusesEarly protocol key record now =
        (source.declines protocol record now ||
          state.refusesBody protocol source record now) := by
      rw [refusesEarly_of_some protocol found, valid, affords, counts]
      rfl
    rw [paid, early, ← account]
    simp only [there]
    have charged : ∀ {after}, Noted
        (state.updateSource key fun source => source.charge record.length)
        after key → Noted state after key := by
      rintro after ⟨old, before, shows⟩
      cases there.symm.trans before
      exact ⟨source, found, shows⟩
    split
    · rename_i unprepared
      have prepares : prepares protocol (source.charge record.length) record
          now none := unprepared
      rcases ingestPrepared_dichotomy protocol there prepares with
        refused | ⟨taken, noted⟩
      · exact .inl refused
      · exact .inr (.inr ⟨taken, charged noted⟩)
    · rename_i text failed
      have declines := declines_of_preparation protocol failed
      rw [declines_charge] at declines
      exact .inl ⟨text, rfl, iff_of_true rfl (by rw [declines]; rfl)⟩
    · exact .inr (.inl ⟨_, _, _, rfl⟩)
    · rename_i prepared accepted
      have prepares : prepares protocol (source.charge record.length) record
          now (some prepared) := accepted
      rcases ingestPrepared_dichotomy protocol there prepares with
        refused | ⟨taken, noted⟩
      · exact .inl refused
      · exact .inr (.inr ⟨taken, charged noted⟩)

/-- What follows under later locks lets the sources drift. -/
theorem drifts_finishIngest
    {state after : State}
    {taken : Bool}
    {written : Except String Unit}
    {outcome : Ingested}
    (failed : finishIngest protocol state key taken written outcome =
      (after, .error text)) :
    Drifts state after := by
  cases outcome with
  | rejected reason notify credit => cases failed
  | accepted event keyframe =>
      cases event with
      | some event =>
          cases taken with
          | true => cases failed
          | false =>
              cases written with
              | ok _ => cases failed
              | error problem =>
                  cases failed
                  exact drifts_dropQueued state key event.deliveryId
      | none =>
          cases written with
          | ok _ => cases failed
          | error problem =>
              cases failed
              exact drifts_refl state

/-- A presenter that retains at most a hundred and fifty bytes. -/
def tightConfig :
    Config :=
  { Config.standard with aggregateRetainedBytes := 150 }

/-- Producer 1 creates image 4 of a hundred bytes beside image 3. -/
def creatingSecondImage :
    List PresenterEvent :=
  controlling 4
    (.createImage (.ok
      ({ envelope := plainEnvelope
         config :=
           { sourceId := 4
             width := 5
             height := 5
             encodedLength := 100
             encoding := .png
             sha256 := none }
         capturePolicy := 0
         statesPolicy := false
         semanticDescriptor := none
         statesDescriptor := false },
        false))) 2

/-- An image body of some length. -/
def imageRecord (length : Nat) : MediaRecord where
  sequence := 1
  length := length
  body := .image ⟨0, fun _ => some (5, 5)⟩

/-- Image 3 is retained, and image 4 does not fit beside it: its body is
refused for the quota, but it counts as the last one of its source. -/
theorem quota_refusal_counts_image :
    let protocol := wellFormedProtocol fun _ _ => true
    let key : SourceKey := ⟨1, 4⟩
    ∃ presenter,
      follow protocol (fun _ _ => true) (.start tightConfig false)
          (connecting ++ creatingImage ++ receivingImage ++
            creatingSecondImage) = some presenter ∧
        (∃ text, (ingestCall protocol presenter.shared key (imageRecord 100) 0
          true (.ok ())).2 = .error text) ∧
        (ingestCall protocol presenter.shared key (imageRecord 100) 0 true
          (.ok ())).1.mediaAccount key ≠ presenter.shared.mediaAccount key := by
  intro protocol key
  have results : (follow protocol (fun _ _ => true) (.start tightConfig false)
      (connecting ++ creatingImage ++ receivingImage ++
        creatingSecondImage)).map (fun presenter =>
          let call := ingestCall protocol presenter.shared key
            (imageRecord 100) 0 true (.ok ())
          (call.2.toOption, decide (call.1.mediaAccount key =
            presenter.shared.mediaAccount key))) = some (none, false) := by
    decide +kernel
  obtain ⟨presenter, followed, outcome⟩ := Option.map_eq_some_iff.mp results
  obtain ⟨failed, differs⟩ := Prod.mk.inj outcome
  refine ⟨presenter, followed, ?_, of_decide_eq_false differs⟩
  cases result : (ingestCall protocol presenter.shared key (imageRecord 100) 0
      true (.ok ())).2 with
  | ok _ =>
      rw [result] at failed
      cases failed
  | error text => exact ⟨text, rfl⟩

/-- A call of `ingest_record` that fails leaves the media state of its source
and the global counters as they were if and only if the record is refused
early. -/
theorem failed_ingest_leaves_media_iff
    (state : State)
    (key : SourceKey)
    (record : MediaRecord)
    (now : Nat)
    (taken : Bool)
    (written : Except String Unit)
    {text : String}
    (failed : (ingestCall protocol state key record now taken written).2 =
      .error text) :
    (ingestCall protocol state key record now taken written).1.mediaAccount
        key = state.mediaAccount key ↔
      state.refusesEarly protocol key record now = true := by
  unfold ingestCall at failed ⊢
  cases valid : validateEncodedImage state key record with
  | error problem =>
      refine iff_of_true rfl ?_
      cases found : state.sources.find? key with
      | none => exact refusesEarly_of_none protocol found record now
      | some source =>
          rw [refusesEarly_of_some protocol found, valid]
          rfl
  | ok checked =>
      rw [valid] at failed
      have isValid : (validateEncodedImage state key record).isOk = true := by
        rw [valid]
        rfl
      dsimp only at failed ⊢
      rcases ingestRecord_cases protocol isValid now with
        ⟨problem, refused, traceless⟩ | ⟨reason, notify, credit, rejected⟩ |
          ⟨taken, noted⟩
      · rw [refused]
        exact traceless
      · rw [rejected] at failed
        cases failed
      · rw [taken]
        refine iff_of_false ?_ Bool.false_ne_true
        cases outcome : (ingestRecord protocol state key record now).2 with
        | error problem => exact noted.mediaAccount_ne
        | ok ingested =>
            rw [outcome] at failed
            have drifts := drifts_finishIngest protocol
              (Prod.ext rfl failed)
            exact (noted.behind drifts).mediaAccount_ne

/-- An image body of the wrong length is refused early. -/
theorem failed_ingest_leaves_media_iff_length :
    let protocol := wellFormedProtocol fun _ _ => true
    let key : SourceKey := ⟨1, 3⟩
    ∃ presenter,
      runEvents protocol (fun _ _ => true) (connecting ++ creatingImage) =
          some presenter ∧
        (ingestCall protocol presenter.shared key (imageRecord 99) 0 true
          (.ok ())).1.mediaAccount key = presenter.shared.mediaAccount key := by
  intro protocol key
  have fails : (runEvents protocol (fun _ _ => true)
      (connecting ++ creatingImage)).map (fun presenter =>
        ((ingestCall protocol presenter.shared key (imageRecord 99) 0 true
            (.ok ())).2.toOption,
          presenter.shared.refusesEarly protocol key (imageRecord 99) 0)) =
      some (none, true) := by
    decide +kernel
  obtain ⟨presenter, followed, results⟩ := Option.map_eq_some_iff.mp fails
  obtain ⟨failed, early⟩ := Prod.mk.inj results
  refine ⟨presenter, followed, ?_⟩
  cases outcome : (ingestCall protocol presenter.shared key (imageRecord 99) 0
      true (.ok ())).2 with
  | ok _ =>
      rw [outcome] at failed
      cases failed
  | error text =>
      exact (failed_ingest_leaves_media_iff protocol presenter.shared key
        (imageRecord 99) 0 true (.ok ()) outcome).mpr early

end Media
end Vvmux
