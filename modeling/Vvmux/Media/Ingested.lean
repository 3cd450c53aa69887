import Vvmux.Media.Composition
import Vvmux.Media.Drift

/-!
# What ingest makes of a source

A record that is refused lets its source drift.  A rejected delta marks it, a
raster record that is accepted replaces what it retains, and a packet is
absorbed.  All other sources drift.
-/

namespace Vvmux
namespace Media

open Library

variable (protocol : Protocol)

/-- A delta was rejected. -/
def rejectsDelta :
    Except String Ingested → Bool
  | .ok (.rejected _ _ _) => true
  | _ => false

/-- What the source of a record turns into before it drifts on. -/
inductive Source.Ingests
    (source : Source)
    (record : MediaRecord)
    (now : Nat)
    (projected : Bool) :
    Source → Except String Ingested → Prop
  | refused (after : Source) (outcome : Except String Ingested) :
      source.Drifts after → rejectsDelta outcome = false →
      Ingests source record now projected after outcome
  | rejected (config : RasterConfig) (body : RasterBody)
      (reason : FullFrameReason) (notify : Bool)
      (outcome : Except String Ingested) :
      source.descriptor = .raster config → record.body = .raster body →
      prepareRaster protocol source config body now =
        .ok (.rejected reason notify) →
      rejectsDelta outcome = true →
      Ingests source record now projected
        { source with rasterRequiresFullReason := some reason } outcome
  | raster (config : RasterConfig) (body : RasterBody)
      (prepared : PreparedRaster) (after : Source)
      (outcome : Except String Ingested) :
      source.descriptor = .raster config → record.body = .raster body →
      source.Composes protocol config body prepared →
      source.KeyframeKept after →
      after.sequence = prepared.sequence →
      after.retained = some ⟨prepared.length, some prepared.frame⟩ →
      rejectsDelta outcome = false →
      Ingests source record now projected after outcome
  | image (config : ImageConfig) (body : ImageBody) (after : Source)
      (outcome : Except String Ingested) :
      source.descriptor = .image config → record.body = .image body →
      source.KeyframeKept after →
      Ingests source record now projected after outcome
  | video (config : VideoConfig) (packet : VideoPacket)
      (sequence : MediaSequence) (after : Source)
      (outcome : Except String Ingested) :
      source.descriptor = .video config → record.body = .video (.ok packet) →
      protocol.accept source.sequence packet.packetId packet.epoch =
        .ok sequence →
      (absorbVideo source projected packet sequence).source.KeyframeKept
        after →
      after.sequence = sequence →
      Ingests source record now projected after outcome
  | audio (config : AudioConfig) (packet : AudioPacket) (after : Source)
      (outcome : Except String Ingested) :
      source.descriptor = .audio config → record.body = .audio (.ok packet) →
      source.KeyframeKept after →
      Ingests source record now projected after outcome

/-! ## Records behind their preparation -/

section

variable (source : Source) (projected : Bool)

theorem sequence_absorbVideo
    (packet : VideoPacket)
    (sequence : MediaSequence) :
    (absorbVideo source projected packet sequence).source.sequence =
      sequence := by
  unfold absorbVideo
  simp only
  split
  · rfl
  · split
    · rfl
    · rfl

theorem keyframeKept_settleRecord
    (prepared : Option PreparedRaster)
    (record : MediaRecord)
    (retained : Option Retained) :
    source.KeyframeKept
      ((source.settleRecord projected prepared record).retain retained) := by
  unfold Source.settleRecord
  cases prepared <;> cases retained <;> exact ⟨rfl, rfl, rfl, rfl, id⟩

theorem sequence_settleRecord
    (record : MediaRecord)
    (retained : Option Retained) :
    ((source.settleRecord projected none record).retain retained).sequence =
      source.sequence := by
  cases retained <;> rfl

end

theorem rejectsDelta_deliverRecord
    (state : State)
    (key : SourceKey)
    (record : MediaRecord)
    (source : Source)
    (forward : Bool)
    (body : ForwardBody × Nat)
    (recovered : Option (Nat × Int)) :
    rejectsDelta
      (deliverRecord state key record source forward body recovered).2 =
        false := by
  unfold deliverRecord
  split
  · split <;> rfl
  · rfl

variable {state : State} {key : SourceKey} {record : MediaRecord}
  {source : Source} {now thread : Nat} {presenter after : Presenter}

variable {prepared : Option PreparedRaster}

/-- A source settles a record that it absorbed, or keeps it unsettled because
its body does not fit; the sources drift from there. -/
theorem ingestPrepared_settles
    {absorbed : Absorbed}
    (result : absorb protocol source (state.isProjected key) prepared record =
      .ok absorbed) :
    rejectsDelta
        (ingestPrepared protocol state key record source prepared).2 = false ∧
      (Drifts (state.updateSource key fun _ => absorbed.source)
          (ingestPrepared protocol state key record source prepared).1 ∨
        Drifts
          (state.updateSource key fun _ =>
            (absorbed.source.settleRecord (state.isProjected key) prepared
              record).retain absorbed.retained)
          (ingestPrepared protocol state key record source prepared).1) := by
  unfold ingestPrepared
  dsimp only
  rw [result]
  dsimp only
  split
  · exact ⟨rfl, .inl (drifts_of_eq rfl)⟩
  · generalize (absorbed.source.settleRecord (state.isProjected key) prepared
      record).retain absorbed.retained = settled
    have kept : Drifts (state.updateSource key fun _ => settled)
        (((state.updateSource key fun _ =>
          absorbed.source).exchangeRetained source.retainedBytes
            (retainedLength absorbed.retained)).updateSource key fun _ =>
              settled) := by
      apply drifts_of_eq
      simp only [State.updateSource, State.exchangeRetained,
        State.releaseRetained, OrderedMap.modify_modify]
    generalize ((state.updateSource key fun _ =>
      absorbed.source).exchangeRetained source.retainedBytes
        (retainedLength absorbed.retained)).updateSource key
          (fun _ => settled) = after at *
    have hydrated : Drifts after
        (if (settled.descriptor.isImage &&
            decide (0 < retainedLength absorbed.retained) &&
            decide (source.retainedBytes = 0)) = true then
          advanceProjection after
        else after) := by
      split
      · exact (notified_advanceProjection after).drifts
      · exact drifts_refl after
    have told := (kept.trans hydrated).trans (drifts_advanceSource protocol _
      key [.epoch, .milestones, .creditAccounting])
    split
    · exact ⟨rfl, .inr told⟩
    · exact ⟨rejectsDelta_deliverRecord _ _ _ _ _ _ _,
        .inr (told.trans (drifts_deliverRecord _ _ _ _ _ _ _))⟩

/-- Setting a source to what it is changes nothing. -/
theorem drifts_rewriteSame
    (found : state.sources.find? key = some source) :
    Drifts (state.updateSource key fun _ => source) state := by
  intro other current there
  by_cases isKey : other = key
  · subst isKey
    cases found.symm.trans there
    exact ⟨source, find?_updateSource_self found _, .refl source⟩
  · refine ⟨current, ?_, .refl current⟩
    simp only [State.updateSource, OrderedMap.find?_modify, if_neg isKey]
    exact there

/-- A record behind its preparation. -/
theorem ingestPrepared_source
    (found : state.sources.find? key = some source)
    (prepares : preparation protocol source record now =
      prepared.map fun prepared => .ok (.accepted prepared)) :
    ∃ middle,
      source.Ingests protocol record now (state.isProjected key) middle
        (ingestPrepared protocol state key record source prepared).2 ∧
      Drifts (state.updateSource key fun _ => middle)
        (ingestPrepared protocol state key record source prepared).1 := by
  have same := drifts_rewriteSame found
  cases result : absorb protocol source (state.isProjected key) prepared
      record with
  | error text =>
      refine ⟨source, .refused _ _ (.refl source) ?_, ?_⟩
      · unfold ingestPrepared
        dsimp only
        rw [result]
        rfl
      · unfold ingestPrepared
        dsimp only
        rw [result]
        exact same
  | ok absorbed =>
      obtain ⟨outcome, drifts⟩ := ingestPrepared_settles protocol result
      generalize ingestPrepared protocol state key record source prepared =
        ingested at *
      generalize state.isProjected key = projected at *
      have settles := keyframeKept_settleRecord absorbed.source projected
        prepared record absorbed.retained
      unfold absorb at result
      unfold preparation at prepares
      split at result
      · rename_i config body isRaster isFrame
        split at result
        · cases result
        · rename_i prepared
          cases result
          rw [isRaster, isFrame] at prepares
          have composes := prepareRaster_accepted protocol
            (Option.some.inj prepares)
          rcases drifts with drifts | drifts
          · exact ⟨source, .refused _ _ (.refl source) outcome, drifts⟩
          · exact ⟨_, .raster config body prepared _ _ isRaster isFrame
              composes settles rfl rfl outcome, drifts⟩
      · rename_i config body isImage isData
        split at result
        · cases result
        · have keeps : source.KeyframeKept absorbed.source := by
            rw [← Except.ok.inj result]
            exact ⟨rfl, rfl, rfl, rfl, id⟩
          rcases drifts with drifts | drifts
          · exact ⟨_, .image config body _ _ isImage isData keeps, drifts⟩
          · exact ⟨_, .image config body _ _ isImage isData
              (keeps.trans settles), drifts⟩
      · rename_i config parsed isVideo isPacket
        split at result
        · cases result
        · rename_i packet
          split at result
          · cases result
          · split at result
            · cases result
            · rename_i sequence accepted
              obtain rfl : prepared = none := by
                rw [isVideo, isPacket] at prepares
                simpa using prepares.symm
              have absorbs := sequence_absorbVideo source projected packet
                sequence
              obtain rfl := Except.ok.inj result
              rcases drifts with drifts | drifts
              · exact ⟨_, .video config packet sequence _ _ isVideo isPacket
                  accepted (.refl _) absorbs, drifts⟩
              · exact ⟨_, .video config packet sequence _ _ isVideo isPacket
                  accepted settles
                  ((sequence_settleRecord _ _ _ _).trans absorbs), drifts⟩
      · rename_i config parsed isAudio isPacket
        split at result
        · cases result
        · rename_i packet
          split at result
          · cases result
          · split at result
            · cases result
            · have keeps : source.KeyframeKept absorbed.source := by
                rw [← Except.ok.inj result]
                exact ⟨rfl, rfl, rfl, rfl, id⟩
              rcases drifts with drifts | drifts
              · exact ⟨_, .audio config packet _ _ isAudio isPacket keeps,
                  drifts⟩
              · exact ⟨_, .audio config packet _ _ isAudio isPacket
                  (keeps.trans settles), drifts⟩
      · cases result

/-- A record leaves its source what it is. -/
theorem Source.Ingests.identity
    {protocol : Protocol}
    {source after : Source}
    {projected : Bool}
    {outcome : Except String Ingested}
    (ingests : source.Ingests protocol record now projected after outcome) :
    after.serial = source.serial ∧ after.descriptor = source.descriptor := by
  cases ingests with
  | refused _ _ drift _ => exact ⟨drift.raster.serial, drift.raster.descriptor⟩
  | rejected config body reason notify _ isRaster isFrame prepares rejects =>
      exact ⟨rfl, rfl⟩
  | raster config body prepared _ _ isRaster isFrame composes keeps sequence
      retains kept =>
      exact ⟨keeps.serial, keeps.descriptor⟩
  | image config body _ _ isImage isData keeps =>
      exact ⟨keeps.serial, keeps.descriptor⟩
  | video config packet sequence _ _ isVideo isPacket accepted keeps absorbs =>
      have same : (absorbVideo source projected packet sequence).source.serial =
          source.serial ∧
          (absorbVideo source projected packet sequence).source.descriptor =
            source.descriptor := by
        unfold absorbVideo
        simp only
        split
        · exact ⟨rfl, rfl⟩
        · split <;> exact ⟨rfl, rfl⟩
      exact ⟨keeps.serial.trans same.1, keeps.descriptor.trans same.2⟩
  | audio config packet _ _ isAudio isPacket keeps =>
      exact ⟨keeps.serial, keeps.descriptor⟩

/-! ## Whole records -/

theorem drifts_consumeSourceCredit
    (state : State)
    (key : SourceKey)
    (bytes : Nat) : Drifts state (consumeSourceCredit state key bytes).1 := by
  have rewritten : ∀ change : Source → Source,
      (∀ source : Source, source.Drifts (change source)) →
        Drifts state (state.updateSource key change) :=
    drifts_updateSource state key
  unfold consumeSourceCredit
  split
  · exact drifts_refl state
  · split
    · exact drifts_refl state
    · split
      · refine rewritten _ ?_
        exact fun _ => Source.drifts_of_eq rfl rfl rfl rfl rfl rfl rfl id
      · split
        · refine rewritten _ ?_
          exact fun _ => Source.drifts_of_eq rfl rfl rfl rfl rfl rfl rfl id
        · refine rewritten _ ?_
          exact fun _ => Source.drifts_of_eq rfl rfl rfl rfl rfl rfl rfl id

theorem isProjected_consumeSourceCredit
    (state : State)
    (key : SourceKey)
    (bytes : Nat) :
    (consumeSourceCredit state key bytes).1.isProjected key =
      state.isProjected key := by
  unfold consumeSourceCredit
  split
  · rfl
  · split
    · rfl
    · split
      · rfl
      · split <;> rfl

/-- A rewriting that hides how a source drifted. -/
theorem Evolves.rewrite
    {before after : State}
    (drifts : Drifts before after)
    (found : before.sources.find? key = some source)
    (rewritten : Source) :
    Drifts (before.updateSource key fun _ => rewritten)
      (after.updateSource key fun _ => rewritten) := by
  intro other new there
  by_cases isKey : other = key
  · subst isKey
    refine ⟨rewritten, find?_updateSource_self found _, ?_⟩
    simp only [State.updateSource, OrderedMap.find?_modify, if_pos] at there
    obtain ⟨_, _, rfl⟩ := Option.map_eq_some_iff.mp there
    exact .refl rewritten
  · simp only [State.updateSource, OrderedMap.find?_modify,
      if_neg isKey] at there ⊢
    exact drifts other new there

/-- What a record makes of its source, and that all sources drift from
there. -/
theorem ingestRecord_source
    (found : state.sources.find? key = some source)
    (record : MediaRecord)
    (now : Nat) :
    ∃ paid middle, source.Drifts paid ∧
      paid.Ingests protocol record now (state.isProjected key) middle
        (ingestRecord protocol state key record now).2 ∧
      Drifts (state.updateSource key fun _ => middle)
        (ingestRecord protocol state key record now).1 := by
  have paying := drifts_consumeSourceCredit state key record.length
  have projected := isProjected_consumeSourceCredit state key record.length
  have untaken : ∀ outcome : Except String Ingested,
      rejectsDelta outcome = false →
      ∃ paid middle, source.Drifts paid ∧
        paid.Ingests protocol record now (state.isProjected key) middle
          outcome ∧
        Drifts (state.updateSource key fun _ => middle)
          (consumeSourceCredit state key record.length).1 := fun outcome kept =>
    ⟨source, source, .refl source, .refused _ _ (.refl source) kept,
      (drifts_rewriteSame found).trans paying⟩
  unfold ingestRecord
  dsimp only
  generalize consumeSourceCredit state key record.length = paid at *
  split
  · exact untaken _ rfl
  · cases there : paid.1.sources.find? key with
    | none => exact untaken _ rfl
    | some current =>
        obtain ⟨old, isOld, drift⟩ := paying key current there
        cases found.symm.trans isOld
        have behind : ∀ prepared,
            preparation protocol current record now =
              prepared.map (fun prepared => .ok (.accepted prepared)) →
            ∃ middle,
              current.Ingests protocol record now (state.isProjected key)
                middle
                (ingestPrepared protocol paid.1 key record current
                  prepared).2 ∧
              Drifts (state.updateSource key fun _ => middle)
                (ingestPrepared protocol paid.1 key record current
                  prepared).1 := by
          intro prepared prepares
          obtain ⟨middle, ingests, drifts⟩ :=
            ingestPrepared_source protocol there prepares
          rw [projected] at ingests
          exact ⟨middle, ingests, (paying.rewrite found middle).trans drifts⟩
        dsimp only
        split
        · rename_i unprepared
          obtain ⟨middle, ingests, drifts⟩ := behind none unprepared
          exact ⟨current, middle, drift, ingests, drifts⟩
        · exact untaken _ rfl
        · rename_i reason notify prepares
          refine ⟨current,
            { current with rasterRequiresFullReason := some reason }, drift,
            ?_, ?_⟩
          · unfold preparation at prepares
            split at prepares
            · rename_i config body isRaster isFrame
              exact .rejected config body reason notify _ isRaster isFrame
                (Option.some.inj prepares) rfl
            · cases prepares
          · refine Evolves.trans ?_ (drifts_prepareCreditReturn _ _ _ _)
            have same : (paid.1.updateSource key fun source =>
                { source with rasterRequiresFullReason := some reason }) =
                paid.1.updateSource key fun _ =>
                  { current with rasterRequiresFullReason := some reason } :=
              State.updateSource_congr there rfl
            rw [same]
            exact paying.rewrite found _
        · rename_i prepared prepares
          obtain ⟨middle, ingests, drifts⟩ := behind (some prepared) prepares
          exact ⟨current, middle, drift, ingests, drifts⟩

/-- A record whose source is gone. -/
theorem ingestRecord_missing
    (missing : state.sources.find? key = none)
    (record : MediaRecord)
    (now : Nat) : (ingestRecord protocol state key record now).1 = state := by
  unfold ingestRecord consumeSourceCredit
  rw [missing]

/-! ## Steps -/

variable {writable : Bool}

/-- What a step of ingest leaves behind. -/
theorem drifts_ingest
    (stepped : presenterStep protocol presenter
      (.ingest thread now writable) = some after) :
    ∃ ticket record,
      presenter.phase? thread = some (.validated ticket record) ∧
        Drifts
          (ingestRecord protocol presenter.shared ticket.source record now).1
          after.shared := by
  simp only [presenterStep, sessionStep, controlStep, channelStep,
    serviceStep, Option.map_none, Option.none_or, Option.or_none] at stepped
  split at stepped <;> cases stepped
  rename_i ticket record validated
  refine ⟨ticket, record, validated, ?_⟩
  generalize ingestRecord protocol presenter.shared ticket.source record now =
    ingested
  unfold Presenter.settleIngest
  split
  · exact drifts_refl _
  · split
    · apply drifts_of_eq
      simp only [Presenter.shared_move, Presenter.shared_withShared,
        Presenter.rejectionReplies]
      split
      · unfold writeDeliveryCredit
        split <;> split <;> rfl
      · rfl
    · exact drifts_refl _
  · exact drifts_refl _
  · split
    · exact drifts_refl _
    · split
      · exact drifts_refl _
      · exact drifts_refl _

/-- What a request of the session for key frames leaves behind. -/
theorem shared_requestKeyframes
    {requests : List (SourceKey × Option Nat × KeyframeReason)}
    (stepped : presenterStep protocol presenter
      (.requestKeyframes requests) = some after) :
    after.shared = requests.foldl
      (fun state request =>
        requestKeyframe protocol state request.1 request.2.1 request.2.2)
      presenter.shared := by
  simp only [presenterStep, sessionStep, controlStep, channelStep,
    serviceStep, Option.map_some, Option.some_or, Option.some.injEq]
    at stepped
  rw [← stepped]
  rfl

/-- What a media thread's request for a key frame leaves behind. -/
theorem shared_recover
    (stepped : presenterStep protocol presenter (.recover thread) =
      some after) :
    ∃ ticket, presenter.phase? thread = some (.recovering ticket) ∧
      after.shared = requestKeyframe protocol presenter.shared ticket.source
        none .transportLoss := by
  simp only [presenterStep, sessionStep, controlStep, channelStep,
    serviceStep, Option.map_none, Option.none_or, Option.or_none] at stepped
  split at stepped <;> cases stepped
  rename_i ticket recovering
  exact ⟨ticket, recovering, rfl⟩

/-- What the main part of a `FLUSH` leaves behind. -/
theorem drifts_flush
    {circumstance : Circumstance}
    {producer : ProducerId}
    {epoch : Nat}
    {envelope : Envelope}
    (busy : presenter.phase? thread =
      some (.busy producer (.flush key epoch envelope)))
    (stepped : presenterStep protocol presenter
      (.run thread circumstance writable) = some after) :
    Drifts
      (presenter.shared.updateSource key fun source =>
        source.flushed epoch envelope.causation)
      after.shared := by
  rw [shared_run protocol busy stepped]
  refine Evolves.trans ?_ (drifts_respondTo _ _ _)
  unfold flushSource
  split
  · exact drifts_advanceSource protocol _ _ _
  · rename_i absent
    intro other source found
    refine ⟨source, ?_, .refl source⟩
    simp only [State.updateSource, OrderedMap.find?_modify]
    split
    · rename_i same
      subst same
      exact absurd (OrderedMap.mem_of_find?_eq_some found) absent
    · exact found

end Media
end Vvmux
