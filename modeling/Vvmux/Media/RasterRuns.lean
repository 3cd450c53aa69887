import Vvmux.Media.Histories

/-!
# Runs of raster sources

What a raster source retains is the frame that its accepted records compose:
the last full frame, and on it every later delta in order.  A delta is accepted
only onto the frame that it names as its base, and after a rejected delta only
behind another full frame.
-/

namespace Vvmux
namespace Media

open Library

variable (protocol : Protocol)

/-! ## Frames that are shown -/

/-- A frame as it is shown. -/
structure Shown where
  epoch : Nat
  frameId : Nat
  picture : Picture

def FullFrame.shown (frame : FullFrame) : Shown where
  epoch := frame.epoch
  frameId := frame.frameId
  picture := picture frame.width frame.height frame.pixels

/-- What a full frame shows once it is decoded. -/
def ParsedFullFrame.shown (frame : ParsedFullFrame) : Shown where
  epoch := frame.epoch
  frameId := frame.frameId
  picture := picture frame.width frame.height
    (frame.pixels.toOption.getD [])

/-- What a delta makes of what was shown. -/
def DeltaFrame.shown (frame : DeltaFrame) (base : Shown) : Shown where
  epoch := frame.epoch
  frameId := frame.frameId
  picture := frame.operations.foldl DeltaOperation.paint base.picture

/-- The frame that a raster source retains. -/
def Source.retainedFrame (source : Source) : Option FullFrame :=
  source.retained.bind Retained.frame

/-- The frame has the size of its source, with four bytes for each pixel. -/
structure FullFrame.Fits
    (frame : FullFrame)
    (config : RasterConfig) : Prop where
  width : frame.width = config.width
  height : frame.height = config.height
  whole : frame.pixels.length = config.width * config.height * 4

/-! ## Histories -/

/-- What becomes of a raster record: a full frame or a delta is accepted, the
delta onto what its source retained, or a delta is rejected. -/
inductive RasterNote where
  | full (frame : ParsedFullFrame)
  | delta (frame : DeltaFrame) (retained : Option FullFrame)
  | rejected

/-- What the accepted frames compose, the latest first. -/
def composed : List RasterNote → Option Shown
  | [] => none
  | .full frame :: _ => some frame.shown
  | .delta frame _ :: earlier => (composed earlier).map frame.shown
  | .rejected :: earlier => composed earlier

/-- A delta was rejected, and no full frame was accepted since. -/
def awaitsFull : List RasterNote → Bool
  | [] => false
  | .full _ :: _ => false
  | .delta _ _ :: earlier => awaitsFull earlier
  | .rejected :: _ => true

/-- Every delta is accepted onto the frame it names, and while no full frame
is awaited. -/
def Lawful : List RasterNote → Prop
  | [] => True
  | .full _ :: earlier => Lawful earlier
  | .delta frame retained :: earlier =>
      (∃ base, retained = some base ∧ base.epoch = frame.epoch ∧
        base.frameId = frame.baseFrameId) ∧
      awaitsFull earlier = false ∧ Lawful earlier
  | .rejected :: earlier => Lawful earlier

theorem Lawful.earlier
    {note : RasterNote}
    {earlier : List RasterNote}
    (lawful : Lawful (note :: earlier)) : Lawful earlier := by
  cases note with
  | full frame => exact lawful
  | delta frame retained => exact lawful.2.2
  | rejected => exact lawful

theorem Lawful.behind
    {later earlier : List RasterNote}
    (lawful : Lawful (later ++ earlier)) : Lawful earlier := by
  induction later with
  | nil => exact lawful
  | cons note rest ih =>
      exact ih lawful.earlier

/-- Where no full frame is awaited any more, one was accepted. -/
theorem full_mem_of_awaitsFull
    {between before : List RasterNote}
    (served : awaitsFull (between ++ .rejected :: before) = false) :
    ∃ frame, RasterNote.full frame ∈ between := by
  induction between with
  | nil => cases served
  | cons note rest ih =>
      cases note with
      | full frame => exact ⟨frame, List.mem_cons_self ..⟩
      | delta frame retained =>
          obtain ⟨full, member⟩ := ih served
          exact ⟨full, List.mem_cons_of_mem _ member⟩
      | rejected => cases served

/-! ## What is noted -/

/-- What is noted of a record for a source, from what ingest returns and what
it leaves of the source.  A frame is accepted if the media sequence of the
source took it, also where the call fails behind that. -/
def rasterNotes
    (source : Source)
    (body : MediaBody)
    (outcome : Except String Ingested)
    (after : Option Source) : List RasterNote :=
  match body with
  | .raster body =>
      if rejectsDelta outcome then [.rejected]
      else if after.any fun after => after.sequence != source.sequence then
        match body with
        | .full (.ok frame) => [.full frame]
        | .delta (.ok frame) => [.delta frame source.retainedFrame]
        | _ => []
      else []
  | _ => []

/-- What is noted of a record under the lock. -/
def ingestNotes
    (state : State)
    (key : SourceKey)
    (record : MediaRecord)
    (now : Nat) : List (SourceName × RasterNote) :=
  match state.sources.find? key with
  | none => []
  | some source =>
      let ingested := ingestRecord protocol state key record now
      (rasterNotes source record.body ingested.2
        (ingested.1.sources.find? key)).map (Prod.mk (key, source.serial))

/-- What is noted of a step. -/
def observeRasters
    (presenter : Presenter)
    (event : PresenterEvent) : List (SourceName × RasterNote) :=
  match event with
  | .ingest thread now _ =>
      match presenter.phase? thread with
      | some (.validated ticket record) =>
          ingestNotes protocol presenter.shared ticket.source record now
      | _ => []
  | _ => []

instance (width height : Nat) (operation : DeltaOperation) :
    Decidable (operation.Within width height) :=
  match operation with
  | .overwrite _ _ _ _ _ => inferInstanceAs (Decidable (_ ∧ _))
  | .copy _ _ _ _ _ _ => inferInstanceAs (Decidable (_ ∧ _))

/-- What the protocol library promises of a body that it parsed: pixels and
payloads have the length of their rectangles, and the rectangles of a delta
lie in the frame. -/
def RasterBody.parsed
    (config : RasterConfig) :
    RasterBody → Bool
  | .full (.ok frame) =>
      frame.pixels.toOption.all fun pixels =>
        decide (pixels.length = frame.width * frame.height * 4)
  | .delta (.ok frame) =>
      frame.operations.all fun operation =>
        decide (operation.Within config.width config.height)
  | _ => true

/-- A record that is ingested for a raster source holds what the protocol
library parsed. -/
def Presenter.parses (presenter : Presenter) (event : PresenterEvent) : Bool :=
  match event with
  | .ingest thread _ _ =>
      match presenter.phase? thread with
      | some (.validated ticket record) =>
          match presenter.shared.sources.find? ticket.source with
          | none => true
          | some source =>
              match source.descriptor, record.body with
              | .raster config, .raster body => body.parsed config
              | _, _ => true
      | _ => true
  | _ => true

variable {presenter : Presenter} {source : Source} {config : RasterConfig}
  {body : RasterBody} {history : List RasterNote}
  {outcome : Except String Ingested} {now : Nat}

variable {record : MediaRecord} {writable : Bool}

theorem Presenter.parses_ingest
    {thread now : Nat}
    {ticket : Ticket}
    (parses : presenter.parses (.ingest thread now writable) = true)
    (validated : presenter.phase? thread = some (.validated ticket record))
    (found : presenter.shared.sources.find? ticket.source = some source)
    (isRaster : source.descriptor = .raster config)
    (isFrame : record.body = .raster body) : body.parsed config = true := by
  simp only [Presenter.parses, validated, found, isRaster, isFrame] at parses
  exact parses

/-! ## One source -/

/-- A raster source retains what its history composes, and knows when a full
frame is awaited. -/
structure Source.Displays
    (source : Source)
    (config : RasterConfig)
    (history : List RasterNote) : Prop where
  shown : source.retainedFrame.map FullFrame.shown = composed history
  fits : ∀ frame, source.retainedFrame = some frame → frame.Fits config
  latched : awaitsFull history = true →
    source.rasterRequiresFullReason.isSome = true

/-- Nothing is asked of other sources. -/
def Source.Composed (source : Source) (history : List RasterNote) : Prop :=
  ∀ config, source.descriptor = .raster config → source.Displays config history

variable {before after : Source}

theorem Source.RasterKept.retainedFrame
    (kept : before.RasterKept after)
    (isRaster : before.descriptor = .raster config) :
    after.retainedFrame = before.retainedFrame := by
  unfold Source.retainedFrame
  rw [kept.retained (by rw [isRaster]; rfl)]

theorem Source.Composed.kept
    (composes : before.Composed history)
    (kept : before.RasterKept after) : after.Composed history := by
  intro config isRaster
  rw [kept.descriptor] at isRaster
  have shows := composes config isRaster
  have same := kept.retainedFrame isRaster
  constructor
  · rw [same]
    exact shows.shown
  · rw [same]
    exact shows.fits
  · exact fun awaits => kept.latched (shows.latched awaits)

theorem Source.composed_of_bare
    (bare : source.retained = none) : source.Composed [] := by
  intro config _
  have none : source.retainedFrame = none := by
    unfold Source.retainedFrame
    rw [bare]
    rfl
  constructor
  · rw [none]
    rfl
  · intro frame retains
    rw [none] at retains
    cases retains
  · intro awaits
    cases awaits

/-- A record whose source has the same media sequence behind it leaves no
note, unless a delta was rejected. -/
theorem rasterNotes_eq_nil
    {body : MediaBody}
    {after : Option Source}
    (kept : rejectsDelta outcome = false)
    (same : ∀ last, after = some last → last.sequence = source.sequence) :
    rasterNotes source body outcome after = [] := by
  unfold rasterNotes
  split
  · rw [kept, if_neg Bool.false_ne_true, if_neg]
    intro changed
    cases after with
    | none => cases changed
    | some last =>
        rw [Option.any_some, same last rfl, bne_self_eq_false] at changed
        cases changed
  · rfl

/-- A raster record that the media sequence of its source took. -/
theorem rasterNotes_accepted
    {source last : Source}
    (kept : rejectsDelta outcome = false)
    (changed : last.sequence ≠ source.sequence) :
    rasterNotes source (.raster body) outcome (some last) =
      match body with
      | .full (.ok frame) => [.full frame]
      | .delta (.ok frame) => [.delta frame source.retainedFrame]
      | _ => [] := by
  unfold rasterNotes
  dsimp only
  rw [kept, if_neg Bool.false_ne_true, if_pos]
  exact bne_iff_ne.mpr changed

/-- An accepted record of a raster source extends its history lawfully, and
the source retains what the history then composes. -/
theorem Source.Composes.noted
    {protocol : Protocol}
    {source paid middle last : Source}
    {prepared : PreparedRaster}
    (shows : source.Displays config history)
    (lawful : Lawful history)
    (parsed : body.parsed config = true)
    (isRaster : source.descriptor = .raster config)
    (drift : source.Drifts paid)
    (composes : paid.Composes protocol config body prepared)
    (retains : middle.retained =
      some ⟨prepared.length, some prepared.frame⟩)
    (kept : rejectsDelta outcome = false)
    (changed : last.sequence ≠ source.sequence) :
    Lawful (rasterNotes source (.raster body) outcome (some last) ++
        history) ∧
      middle.Displays config
        (rasterNotes source (.raster body) outcome (some last) ++
          history) := by
  rw [rasterNotes_accepted kept changed]
  have frame : middle.retainedFrame = some prepared.frame := by
    unfold Source.retainedFrame
    rw [retains]
    rfl
  have before := drift.raster.retainedFrame isRaster
  cases composes with
  | full parsedFrame pixels _ decoded width height isFrame accepted =>
      refine ⟨lawful, ?_, ?_, ?_⟩
      · rw [frame, isFrame]
        simp only [List.cons_append, composed, Option.map_some,
          FullFrame.shown, ParsedFullFrame.shown, decoded, width, height]
        rfl
      · intro retained isRetained
        rw [frame] at isRetained
        cases isRetained
        rw [isFrame]
        refine ⟨rfl, rfl, ?_⟩
        rw [← width, ← height]
        simp only [RasterBody.parsed, decoded, Except.toOption,
          Option.all_some, decide_eq_true_eq] at parsed
        exact parsed
      · intro awaits
        cases awaits
  | delta delta retained current _ free isRetained holds epoch base isFrame
      accepted =>
      have current_eq : source.retainedFrame = some current := by
        rw [← before]
        unfold Source.retainedFrame
        rw [isRetained]
        exact holds
      have served : awaitsFull history = false := by
        apply Bool.eq_false_iff.mpr
        intro awaits
        have latched := drift.raster.latched (shows.latched awaits)
        rw [free] at latched
        cases latched
      have fits := shows.fits current current_eq
      obtain ⟨whole, painted⟩ := picture_applyOperations
        (fun operation inside =>
          of_decide_eq_true (List.all_eq_true.mp parsed operation inside))
        fits.whole
      refine ⟨⟨⟨current, current_eq, epoch.symm, base.symm⟩, served, lawful⟩,
        ?_, ?_, ?_⟩
      · have shown := shows.shown
        rw [current_eq] at shown
        rw [frame, isFrame]
        simp only [List.cons_append, List.nil_append, composed, ← shown,
          Option.map_some, FullFrame.shown, DeltaFrame.shown, painted,
          fits.width, fits.height]
      · intro retained isRetained
        rw [frame] at isRetained
        cases isRetained
        rw [isFrame]
        exact ⟨rfl, rfl, whole⟩
      · intro awaits
        rw [List.cons_append, List.nil_append, awaitsFull, served] at awaits
        cases awaits

/-- What a record makes of its source and of its history. -/
theorem Source.Composed.ingests
    {protocol : Protocol}
    {source paid middle : Source}
    {projected : Bool}
    {after : Option Source}
    (composes : source.Composed history)
    (lawful : Lawful history)
    (parses : ∀ config body, source.descriptor = .raster config →
      record.body = .raster body → body.parsed config = true)
    (drift : source.Drifts paid)
    (ingests : paid.Ingests protocol record now projected middle outcome)
    (settled : ∀ last, after = some last →
      last.sequence = middle.sequence) :
    Lawful (rasterNotes source record.body outcome after ++ history) ∧
      (after.isSome = true → middle.Composed
        (rasterNotes source record.body outcome after ++ history)) := by
  have unnoted : rasterNotes source record.body outcome after = [] →
      Lawful (rasterNotes source record.body outcome after ++ history) := by
    intro none
    rw [none]
    exact lawful
  have timed : (∀ config, middle.descriptor ≠ .raster config) →
      ∀ body, (∀ raster, body ≠ .raster raster) → record.body = body →
      Lawful (rasterNotes source record.body outcome after ++ history) ∧
        (after.isSome = true → middle.Composed
          (rasterNotes source record.body outcome after ++ history)) := by
    intro notRaster body other isBody
    refine ⟨unnoted ?_, fun _ config isRaster =>
      absurd isRaster (notRaster config)⟩
    rw [isBody]
    unfold rasterNotes
    split
    · exact absurd rfl (other _)
    · rfl
  have identity := ingests.identity.2
  cases ingests with
  | refused _ _ further kept =>
      have none : rasterNotes source record.body outcome after = [] :=
        rasterNotes_eq_nil kept fun last isLast =>
          (settled last isLast).trans (further.sequence.trans drift.sequence)
      refine ⟨unnoted none, fun _ => ?_⟩
      rw [none]
      exact (composes.kept drift.raster).kept further.raster
  | rejected config body reason notify _ isRaster isFrame prepares rejects =>
      have noted : rasterNotes source record.body outcome after =
          [.rejected] := by
        rw [isFrame]
        unfold rasterNotes
        dsimp only
        rw [rejects, if_pos rfl]
      rw [noted]
      refine ⟨lawful, fun _ other same => ?_⟩
      have shows := composes.kept drift.raster other same
      exact ⟨shows.shown, shows.fits, fun _ => rfl⟩
  | raster config body prepared _ _ isRaster isFrame accepted keeps sequence
      retains kept =>
      have same : source.descriptor = .raster config := by
        rw [← drift.raster.descriptor]
        exact isRaster
      have parsed := parses config body same isFrame
      rw [isFrame] at unnoted ⊢
      cases after with
      | none =>
          refine ⟨unnoted (rasterNotes_eq_nil kept fun _ isLast => ?_),
            fun some => ?_⟩
          · cases isLast
          · cases some
      | some last =>
          have changed : last.sequence ≠ source.sequence := by
            obtain ⟨entry, longer⟩ := accepted.sequence
            rw [settled last rfl, sequence, longer, drift.sequence]
            exact List.cons_ne_self _ _
          obtain ⟨lawfully, shows⟩ := accepted.noted (composes config same)
            lawful parsed same drift retains kept changed
          refine ⟨lawfully, fun _ other isOther => ?_⟩
          rw [identity, isRaster] at isOther
          cases isOther
          exact shows
  | image config body _ _ isImage isData keeps =>
      refine timed (fun config same => ?_) _ (by intro raster same; cases same)
        isData
      rw [identity, isImage] at same
      cases same
  | video config packet sequence _ _ isVideo isPacket accepted keeps absorbs =>
      refine timed (fun config same => ?_) _ (by intro raster same; cases same)
        isPacket
      rw [identity, isVideo] at same
      cases same
  | audio config packet _ _ isAudio isPacket keeps =>
      refine timed (fun config same => ?_) _ (by intro raster same; cases same)
        isPacket
      rw [identity, isAudio] at same
      cases same

/-! ## Steps -/

theorem rasterKept_requestKeyframe
    (state : State)
    (key : SourceKey)
    (requestedMinimum : Option Nat)
    (requestedReason : KeyframeReason) :
    Evolves Source.RasterKept state
      (requestKeyframe protocol state key requestedMinimum
        requestedReason) := by
  have idle : Evolves Source.RasterKept state state :=
    fun _ source found => ⟨source, found, .refl source⟩
  unfold requestKeyframe
  split
  · exact idle
  · split
    · exact idle
    · dsimp only
      split
      · exact idle
      · split
        · exact idle
        · exact evolves_updateSource Source.RasterKept.refl state key _
            fun _ _ => ⟨rfl, rfl, fun _ => rfl, id⟩

theorem rasterKept_requestKeyframes
    (requests : List (SourceKey × Option Nat × KeyframeReason))
    (state : State) :
    Evolves Source.RasterKept state
      (requests.foldl
        (fun state request =>
          requestKeyframe protocol state request.1 request.2.1 request.2.2)
        state) := by
  induction requests generalizing state with
  | nil => exact fun _ source found => ⟨source, found, .refl source⟩
  | cons request rest ih =>
      exact (rasterKept_requestKeyframe protocol state request.1 request.2.1
        request.2.2).compose (fun _ _ _ => Source.RasterKept.trans)
          (ih _)

/-- Only ingest changes what raster sources retain. -/
theorem rasterKept_presenterStep
    {presenter after : Presenter}
    {event : PresenterEvent}
    (stepped : presenterStep protocol presenter event = some after)
    (other : ∀ thread now writable, event ≠ .ingest thread now writable) :
    ∃ middle, Born presenter.shared middle ∧
      Evolves Source.RasterKept middle after.shared := by
  cases steers : presenter.steers event with
  | false =>
      obtain ⟨middle, born, drifts⟩ :=
        passes_presenterStep protocol stepped steers
      exact ⟨middle, born, drifts.weaken fun _ _ drift => drift.raster⟩
  | true =>
      refine ⟨_, .none _, ?_⟩
      unfold Presenter.steers at steers
      split at steers
      · exact absurd rfl (other _ _ _)
      · rw [shared_requestKeyframes protocol stepped]
        exact rasterKept_requestKeyframes protocol _ _
      · obtain ⟨ticket, -, same⟩ := shared_recover protocol stepped
        rw [same]
        exact rasterKept_requestKeyframe protocol _ _ _ _
      · split at steers
        · rename_i producer task busy
          cases task with
          | flush key epoch envelope =>
              refine Evolves.compose (fun _ _ _ => Source.RasterKept.trans) ?_
                ((drifts_flush protocol busy stepped).weaken
                  fun _ _ drift => drift.raster)
              exact evolves_updateSource Source.RasterKept.refl _ key _
                fun _ _ => ⟨rfl, rfl, fun _ => rfl, id⟩
          | _ => cases steers
        · cases steers
      · cases steers

/-! ## Runs -/

/-- The state of the presenter beside what was noted on the way to it. -/
structure Retaining
    (run : Presenter × List (SourceName × RasterNote)) : Prop where
  numbered : Numbered run.1.shared
  past : ∀ note ∈ run.2, note.1.2 < run.1.shared.created
  composed : Recorded Source.Composed run.1.shared run.2
  lawful : ∀ name, Lawful (concerning name run.2)

theorem Retaining.start
    (config : Config)
    (events : Bool) : Retaining (.start config events, []) where
  numbered := by
    intro key source found
    cases (OrderedMap.find?_empty key).symm.trans found
  past note noted := absurd noted List.not_mem_nil
  composed := by
    intro key source found
    cases (OrderedMap.find?_empty key).symm.trans found
  lawful _ := trivial

theorem Retaining.ingest
    {presenter after : Presenter}
    {thread now : Nat}
    {notes : List (SourceName × RasterNote)}
    (retaining : Retaining (presenter, notes))
    (parses : presenter.parses (.ingest thread now writable) = true)
    (stepped : presenterStep protocol presenter
      (.ingest thread now writable) = some after) :
    Retaining
      (after, observeRasters protocol presenter
        (.ingest thread now writable) ++ notes) := by
  obtain ⟨counts, numbered⟩ :=
    numbered_presenterStep protocol stepped retaining.numbered
  have past : ∀ note ∈ notes, note.1.2 < after.shared.created :=
    fun note noted => (retaining.past note noted).trans_le counts
  obtain ⟨ticket, record, validated, drifts⟩ := drifts_ingest protocol stepped
  simp only [observeRasters, validated]
  unfold ingestNotes
  cases found : presenter.shared.sources.find? ticket.source with
  | none =>
      rw [ingestRecord_missing protocol found] at drifts
      exact ⟨numbered, past,
        retaining.composed.evolves drifts
          (fun _ _ drift => drift.raster.serial)
          fun _ _ _ drift composes => composes.kept drift.raster,
        retaining.lawful⟩
  | some source =>
      dsimp only
      obtain ⟨paid, middle, drift, ingests, settling⟩ :=
        ingestRecord_source protocol found record now
      generalize ingestRecord protocol presenter.shared ticket.source record
        now = ingested at *
      have settled : ∀ last, ingested.1.sources.find? ticket.source =
          some last → last.sequence = middle.sequence := by
        intro last isLast
        obtain ⟨old, here, further⟩ := settling _ last isLast
        rw [find?_updateSource_self found] at here
        cases here
        exact further.sequence
      obtain ⟨lawful, composes⟩ :=
        (retaining.composed _ source found).ingests
          (retaining.lawful (ticket.source, source.serial))
          (fun _ _ => Presenter.parses_ingest parses validated found) drift
          ingests settled
      have recorded := retaining.composed.rewrite found
        (ingests.identity.1.trans drift.raster.serial) settling
        (fun _ _ further => further.raster.serial)
        (fun _ _ _ further composes => composes.kept further.raster)
        fun present => composes
          ((OrderedMap.find?_isSome_iff _ _).mpr present)
      refine ⟨numbered, ?_, recorded.evolves drifts
        (fun _ _ further => further.raster.serial)
        fun _ _ _ further composes => composes.kept further.raster,
        concerning_forall_note retaining.lawful lawful⟩
      intro note noted
      rcases List.mem_append.mp noted with new | old
      · obtain ⟨_, _, rfl⟩ := List.mem_map.mp new
        exact (retaining.numbered _ source found).trans_le counts
      · exact past note old

theorem Retaining.step
    {presenter after : Presenter}
    {event : PresenterEvent}
    {notes : List (SourceName × RasterNote)}
    (retaining : Retaining (presenter, notes))
    (parses : presenter.parses event = true)
    (stepped : presenterStep protocol presenter event = some after) :
    Retaining
      (after, observeRasters protocol presenter event ++ notes) := by
  by_cases other : ∀ thread now writable, event ≠ .ingest thread now writable
  · obtain ⟨counts, numbered⟩ :=
      numbered_presenterStep protocol stepped retaining.numbered
    obtain ⟨middle, born, evolves⟩ :=
      rasterKept_presenterStep protocol stepped other
    have unnoted : observeRasters protocol presenter event = [] := by
      unfold observeRasters
      split
      · exact absurd rfl (other _ _ _)
      · rfl
    rw [unnoted]
    exact ⟨numbered,
      fun note noted => (retaining.past note noted).trans_le counts,
      (retaining.composed.born born retaining.past fun _ bare _ =>
        Source.composed_of_bare bare).evolves evolves
          (fun _ _ kept => kept.serial)
          fun _ _ _ kept composes => composes.kept kept,
      retaining.lawful⟩
  · push Not at other
    obtain ⟨thread, now, writable, rfl⟩ := other
    exact retaining.ingest protocol parses stepped

/-- Thread 0 connects as producer 1 of pane 1, creates a raster of two pixels
under ticket 9 for deltas, and thread 1 attaches to it. -/
def creatingRaster :
    List PresenterEvent :=
  connecting.map (fun event =>
    match event with
    | .hello thread hello =>
        .hello thread { hello with features := some [.rasterDelta] }
    | other => other) ++ controlling 5
    (.createRaster (.ok
      ({ envelope := plainEnvelope
         config := { sourceId := 5, width := 2, height := 1 }
         capturePolicy := 0
         statesPolicy := false
         semanticDescriptor := none
         statesDescriptor := false },
        { mode := .fullFrameAndDelta, operationLimit := 4 }))) 3 ++
    [.accept 1 (some .raster), .presentTicket 1 9, .attach 1, .markChannel 1]

/-- Thread 1 receives a raster record and ingests it. -/
def receivingRaster
    (sequence : Nat)
    (body : RasterBody) : List PresenterEvent :=
  [.receiveMedia 1 5
      { sequence := sequence
        length := 40
        body := .raster body },
    .ingest 1 0 true]

/-- A full frame of two pixels. -/
def fullRecord (frameId : Nat) : RasterBody :=
  .full (.ok ⟨0, frameId, 0, 0, 2, 1, .ok [1, 2, 3, 4, 5, 6, 7, 8]⟩)

/-- A delta that repeats the frame of its base under a new number. -/
def repeatRecord (base frameId : Nat) : RasterBody :=
  .delta (.ok ⟨0, base, frameId, 0, 0, []⟩)

/-- A full frame and a delta on it, then a delta on the replaced frame, which
is rejected, and the next one with it, until there is another full frame. -/
def repeatingRaster :
    List PresenterEvent :=
  creatingRaster ++ receivingRaster 1 (fullRecord 1) ++
    receivingRaster 2 (repeatRecord 1 2) ++
    receivingRaster 3 (repeatRecord 1 3) ++
    receivingRaster 4 (repeatRecord 2 4) ++ receivingRaster 5 (fullRecord 5) ++
    receivingRaster 6 (repeatRecord 5 6)

end Media
end Vvmux
