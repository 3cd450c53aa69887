import Vvmux.Bridge.Worker

/-!
# Bodies are put together from the chunks of one delivery

The bridge tells the chunks of a source apart only by record type, length and
offset.  What it puts together is a delivery as long as no chunk fits a body
that another delivery began.
-/

namespace Vvmux

open Library

namespace Bridge

/-- A chunk is cut from its delivery. -/
structure CutFrom (delivery : Delivery) (media : BridgeMedia) : Prop where
  deliveryId : media.deliveryId = delivery.id
  source : media.source = delivery.source
  recordType : media.recordType = delivery.recordType
  total : media.total = delivery.body.length
  within : media.offset + media.bytes.length ≤ delivery.body.length
  bytes : media.bytes =
    (delivery.body.drop media.offset).take media.bytes.length

/-- A body is the first part of a delivery. -/
structure BeginsWith
    (delivery : Delivery)
    (key : SourceKey)
    (body : PendingBody) : Prop where
  source : key = delivery.source
  recordType : body.recordType = delivery.recordType
  total : body.total = delivery.body.length
  bytes : body.cachedImage = false → body.bytes = delivery.body.take body.received

variable {delivery : Delivery}

/-- The parts of a delivery are its chunks, one after another. -/
theorem cutFrom_recordsFrom
    {number offset : Nat}
    {chunks : List (List UInt8)}
    (ahead : delivery.body.drop offset = chunks.flatten)
    (inside : offset + chunks.flatten.length = delivery.body.length) :
    ∀ media ∈ delivery.recordsFrom number offset chunks,
      CutFrom delivery media ∧ media.delivery = number := by
  induction chunks generalizing offset with
  | nil =>
      intro media listed
      cases listed
  | cons bytes rest ih =>
      rw [List.flatten_cons] at ahead inside
      rw [List.length_append] at inside
      intro media listed
      rcases List.mem_cons.mp listed with rfl | later
      · refine ⟨⟨rfl, rfl, rfl, rfl, by dsimp only; omega, ?_⟩, rfl⟩
        dsimp only
        rw [ahead, List.take_left]
      · refine ih ?_ (by omega) media later
        rw [← List.drop_drop, ahead, List.drop_left]

theorem cutFrom_records
    {number : Nat} :
    ∀ media ∈ delivery.records number,
      CutFrom delivery media ∧ media.delivery = number :=
  cutFrom_recordsFrom List.drop_zero (Nat.zero_add _)

variable {body : PendingBody}

/-- One more chunk of the same delivery makes the first part longer; so does a
first chunk. -/
theorem BeginsWith.extend
    {media : BridgeMedia}
    (cut : CutFrom delivery media)
    (recordType : body.recordType = media.recordType)
    (total : body.total = media.total)
    (received : body.received = media.offset)
    (bytes : body.cachedImage = false →
      body.bytes = delivery.body.take body.received) :
    BeginsWith delivery media.source (OuterBridge.extend body media) where
  source := cut.source
  recordType := recordType.trans cut.recordType
  total := total.trans cut.total
  bytes := by
    intro kept
    have kept : body.cachedImage = false := kept
    show (if body.cachedImage then body.bytes else body.bytes ++ media.bytes) =
      delivery.body.take (body.received + media.bytes.length)
    rw [if_neg (by simp [kept]), bytes kept, List.take_add, received]
    exact congrArg _ cut.bytes

/-- What a write, a completion or a body says about its delivery is true. -/
def Genuine
    (deliveries : List Delivery)
    (number deliveryId : Nat)
    (source : SourceKey)
    (recordType : MediaType)
    (body : List UInt8) : Prop :=
  ∃ delivery, deliveries[number]? = some delivery ∧
    delivery.id = deliveryId ∧ delivery.source = source ∧
    delivery.recordType = recordType ∧ delivery.body = body

namespace OuterBridge

/-- What the bridge holds and has handed on is from one delivery each. -/
structure Faithful
    (bridge : OuterBridge)
    (deliveries : List Delivery) : Prop where
  pending : ∀ key body, bridge.pending.find? key = some body →
    ∃ delivery, deliveries[body.delivery]? = some delivery ∧
      BeginsWith delivery key body
  reoriginated : ∀ entry ∈ bridge.reoriginated,
    Genuine deliveries entry.delivery entry.deliveryId entry.source
      entry.recordType entry.body
  written : ∀ write ∈ bridge.written,
    Genuine deliveries write.delivery write.deliveryId write.source
      write.recordType write.assembled
  /-- A body is written as it is, or encoded again. -/
  encoded : ∀ write ∈ bridge.written, write.body = write.assembled ∨
    ∃ entry ∈ bridge.reoriginated, entry.delivery = write.delivery ∧
      entry.body = write.assembled
  writers : ∀ writer ∈ bridge.writers,
    (∀ write ∈ writer.queue, write ∈ bridge.written) ∧
      ∀ write, writer.current = some write → write ∈ bridge.written
  completed : ∀ completion ∈ bridge.completed,
    ∃ delivery, deliveries[completion.delivery]? = some delivery ∧
      delivery.id = completion.deliveryId

variable {deliveries : List Delivery} {bridge before after : OuterBridge}
  {index : Nat} {delivery : Delivery} {media : BridgeMedia}

theorem getElem?_concat_some
    {number : Nat}
    {delivery more : Delivery}
    (here : deliveries[number]? = some delivery) :
    (deliveries ++ [more])[number]? = some delivery := by
  rw [List.getElem?_append_left (List.getElem?_eq_some_iff.mp here).1, here]

theorem Faithful.concat
    (faithful : bridge.Faithful deliveries)
    (more : Delivery) : bridge.Faithful (deliveries ++ [more]) where
  pending key body found := by
    obtain ⟨delivery, here, begins⟩ := faithful.pending key body found
    exact ⟨delivery, getElem?_concat_some here, begins⟩
  reoriginated entry listed := by
    obtain ⟨delivery, here, same⟩ := faithful.reoriginated entry listed
    exact ⟨delivery, getElem?_concat_some here, same⟩
  written write listed := by
    obtain ⟨delivery, here, same⟩ := faithful.written write listed
    exact ⟨delivery, getElem?_concat_some here, same⟩
  encoded := faithful.encoded
  writers := faithful.writers
  completed completion listed := by
    obtain ⟨delivery, here, same⟩ := faithful.completed completion listed
    exact ⟨delivery, getElem?_concat_some here, same⟩

/-- Bodies may be given up, and writers without work may come. -/
theorem Faithful.less
    (faithful : before.Faithful deliveries)
    (pending : ∀ key body, after.pending.find? key = some body →
      before.pending.find? key = some body)
    (reoriginated : after.reoriginated = before.reoriginated)
    (written : after.written = before.written)
    (completed : after.completed = before.completed)
    (writers : ∀ writer ∈ after.writers, writer ∈ before.writers ∨
      writer.queue = [] ∧ writer.current = none) :
    after.Faithful deliveries where
  pending key body found := faithful.pending key body (pending key body found)
  reoriginated := by
    rw [reoriginated]
    exact faithful.reoriginated
  written := by
    rw [written]
    exact faithful.written
  encoded := by
    rw [written, reoriginated]
    exact faithful.encoded
  writers := by
    intro writer listed
    rw [written]
    rcases writers writer listed with old | ⟨idle, free⟩
    · exact faithful.writers writer old
    · rw [idle, free]
      exact ⟨(fun write inside => nomatch inside),
        (fun write here => nomatch here)⟩
  completed := by
    rw [completed]
    exact faithful.completed

theorem Faithful.removePending
    (faithful : bridge.Faithful deliveries)
    (key : SourceKey) : (bridge.removePending key).Faithful deliveries := by
  refine faithful.less ?_ rfl rfl rfl (fun _ listed => Or.inl listed)
  intro other body found
  rw [show (bridge.removePending key).pending = bridge.pending.erase key from
    rfl, OrderedMap.find?_erase] at found
  split at found
  · cases found
  · exact found

theorem Faithful.complete
    {bridge : OuterBridge}
    {deliveries : List Delivery}
    {completion : MediaCompletion}
    {delivery : Delivery}
    (faithful : bridge.Faithful deliveries)
    (here : deliveries[completion.delivery]? = some delivery)
    (id : delivery.id = completion.deliveryId) :
    (bridge.complete completion).Faithful deliveries :=
  { faithful with
    completed := by
      intro other listed
      rcases List.mem_cons.mp listed with rfl | old
      · exact ⟨delivery, here, id⟩
      · exact faithful.completed other old }

/-- A changed writer has only writes that were handed to one. -/
theorem Faithful.setWriter
    {writer : MediaWriter}
    (faithful : bridge.Faithful deliveries)
    (queue : ∀ write ∈ writer.queue, write ∈ bridge.written)
    (current : ∀ write, writer.current = some write →
      write ∈ bridge.written) :
    ({ bridge with
      writers := bridge.writers.set index writer } : OuterBridge).Faithful
        deliveries :=
  { faithful with
    writers := by
      intro other listed
      rcases List.mem_or_eq_of_mem_set listed with old | rfl
      · exact faithful.writers other old
      · exact ⟨queue, current⟩ }

variable {write : MediaWrite}

/-- What `try_send` does where it succeeds. -/
theorem sendWrite_eq_ok
    {bridge sent : OuterBridge}
    (accepted : bridge.sendWrite write = .ok sent) :
    ∃ index writer, bridge.media.find? write.source = some index ∧
      bridge.writers[index]? = some writer ∧ writer.running = true ∧
      sent = { bridge with
        writers := bridge.writers.set index
          { writer with queue := writer.queue ++ [write] }
        written := write :: bridge.written } := by
  unfold sendWrite at accepted
  split at accepted
  · cases accepted
  rename_i index found
  split at accepted
  · cases accepted
  rename_i writer here
  split at accepted
  · cases accepted
  rename_i running
  split at accepted
  · cases accepted
  cases accepted
  exact ⟨index, writer, found, here, by simpa using running, rfl⟩

theorem Faithful.sendWrite
    {bridge sent : OuterBridge}
    (faithful : bridge.Faithful deliveries)
    (genuine : Genuine deliveries write.delivery write.deliveryId write.source
      write.recordType write.assembled)
    (encoded : write.body = write.assembled ∨
      ∃ entry ∈ bridge.reoriginated, entry.delivery = write.delivery ∧
        entry.body = write.assembled)
    (accepted : bridge.sendWrite write = .ok sent) :
    sent.Faithful deliveries := by
  obtain ⟨index, writer, -, here, -, rfl⟩ := sendWrite_eq_ok accepted
  have held := faithful.writers writer (List.mem_of_getElem? here)
  exact
    { pending := faithful.pending
      reoriginated := faithful.reoriginated
      written := by
        intro other listed
        rcases List.mem_cons.mp listed with rfl | old
        · exact genuine
        · exact faithful.written other old
      encoded := by
        intro other listed
        rcases List.mem_cons.mp listed with rfl | old
        · exact encoded
        · exact faithful.encoded other old
      writers := by
        intro other listed
        rcases List.mem_or_eq_of_mem_set listed with old | rfl
        · obtain ⟨queue, current⟩ := faithful.writers other old
          exact ⟨fun inside given => List.mem_cons_of_mem _ (queue inside given),
            fun inside given => List.mem_cons_of_mem _ (current inside given)⟩
        · refine ⟨fun inside given => ?_,
            fun inside given => List.mem_cons_of_mem _ (held.2 inside given)⟩
          rcases List.mem_append.mp given with old | new
          · exact List.mem_cons_of_mem _ (held.1 inside old)
          · rw [List.mem_singleton.mp new]
            exact List.mem_cons_self
      completed := faithful.completed }

/-- A body that is a whole delivery is forwarded as that delivery. -/
theorem Faithful.forward
    (faithful : bridge.Faithful deliveries)
    (here : deliveries[body.delivery]? = some delivery)
    (id : delivery.id = media.deliveryId)
    (source : delivery.source = media.source)
    (recordType : delivery.recordType = body.recordType)
    (whole : delivery.body = body.bytes)
    (outcome : Reorigination) :
    (bridge.forward media body outcome).1.Faithful deliveries := by
  have genuine : Genuine deliveries body.delivery media.deliveryId media.source
      body.recordType body.bytes :=
    ⟨delivery, here, id, source, recordType, whole⟩
  unfold OuterBridge.forward
  split
  · exact faithful
  rename_i upstream known
  dsimp only
  split
  · split
    · exact faithful
    -- The body is encoded again, whatever becomes of it then.
    have logged : ({ bridge with
        reoriginated :=
          { delivery := body.delivery
            deliveryId := media.deliveryId
            source := media.source
            recordType := body.recordType
            body := body.bytes } :: bridge.reoriginated } :
          OuterBridge).Faithful deliveries :=
      { faithful with
        reoriginated := by
          intro entry listed
          rcases List.mem_cons.mp listed with rfl | old
          · exact genuine
          · exact faithful.reoriginated entry old
        encoded := by
          intro write listed
          rcases faithful.encoded write listed with plain | ⟨entry, old, same⟩
          · exact Or.inl plain
          · exact Or.inr ⟨entry, List.mem_cons_of_mem _ old, same⟩ }
    split
    · exact logged
    · refine Faithful.complete ?_ here id
      exact { logged with }
    · split
      · exact logged
      · rename_i sent accepted
        have kept := logged.sendWrite genuine
          (Or.inr ⟨_, List.mem_cons_self, rfl, rfl⟩) accepted
        exact { kept with }
  · split
    · exact faithful
    · rename_i sent accepted
      exact faithful.sendWrite genuine (Or.inl rfl) accepted

/-- No body that another delivery began is waiting for this chunk. -/
def FitsOwn (bridge : OuterBridge) (media : BridgeMedia) : Prop :=
  ∀ body, bridge.pending.find? media.source = some body →
    body.recordType = media.recordType → body.total = media.total →
    body.received = media.offset → 0 < media.offset →
    body.delivery = media.delivery

/-- What the pending body has of the delivery of a chunk that fits it. -/
theorem Faithful.begun
    (faithful : bridge.Faithful deliveries)
    (here : deliveries[media.delivery]? = some delivery)
    (own : bridge.FitsOwn media)
    (recordType : (bridge.pendingBody media).recordType = media.recordType)
    (total : (bridge.pendingBody media).total = media.total)
    (received : (bridge.pendingBody media).received = media.offset) :
    (bridge.pendingBody media).cachedImage = false →
      (bridge.pendingBody media).bytes =
        delivery.body.take (bridge.pendingBody media).received := by
  cases found : bridge.pending.find? media.source with
  | none =>
      intro _
      simp [pendingBody, found]
  | some body =>
      have begun : bridge.pendingBody media = body := by
        rw [pendingBody, found, Option.getD_some]
      rw [begun] at recordType total received ⊢
      intro kept
      obtain ⟨other, there, begins⟩ := faithful.pending media.source body found
      rcases Nat.eq_zero_or_pos media.offset with first | further
      · rw [begins.bytes kept, received, first, List.take_zero, List.take_zero]
      · rw [own body found recordType total received further, here] at there
        cases there
        exact begins.bytes kept

theorem Faithful.mediaChunk
    (faithful : bridge.Faithful deliveries)
    (here : deliveries[media.delivery]? = some delivery)
    (cut : CutFrom delivery media)
    (own : bridge.FitsOwn media)
    (outcome : Reorigination) :
    (bridge.mediaChunk media outcome).1.Faithful deliveries := by
  unfold OuterBridge.mediaChunk
  dsimp only
  split
  · exact faithful.removePending media.source
  rename_i fits
  have recordType : (bridge.pendingBody media).recordType = media.recordType :=
    not_not.mp fun other => fits (Or.inl other)
  have total : (bridge.pendingBody media).total = media.total :=
    not_not.mp fun other => fits (Or.inr (Or.inl other))
  have received : (bridge.pendingBody media).received = media.offset :=
    not_not.mp fun other => fits (Or.inr (Or.inr other))
  have begins := BeginsWith.extend cut recordType total received
    (faithful.begun here own recordType total received)
  split
  · exact faithful.removePending media.source
  split
  · have removed := faithful.removePending media.source
    split
    · exact removed
    rename_i complete
    have complete := not_not.mp complete
    split
    · unfold completeCached
      split
      · exact removed
      · exact removed.complete here cut.deliveryId.symm
    · rename_i kept
      refine removed.forward here cut.deliveryId.symm cut.source.symm
        begins.recordType.symm ?_ outcome
      rw [begins.bytes (by simpa using kept), complete, begins.total,
        List.take_length]
  · exact
      { faithful with
        pending := by
          intro key body found
          rw [OrderedMap.find?_insert] at found
          split at found
          · rename_i same
            cases found
            rw [same]
            exact ⟨delivery, here, begins⟩
          · exact faithful.pending key body found }

/-! ### What the other operations of the bridge keep -/

/-- Only sources changed, and writers without work came. -/
structure OnlySources (before after : OuterBridge) : Prop where
  channel : after.channel = before.channel
  pending : after.pending = before.pending
  completions : after.completions = before.completions
  reoriginated : after.reoriginated = before.reoriginated
  written : after.written = before.written
  completed : after.completed = before.completed
  writers : ∃ fresh, after.writers = before.writers ++ fresh ∧
    ∀ writer ∈ fresh, writer.queue = [] ∧ writer.current = none

theorem OnlySources.refl
    (bridge : OuterBridge) : OnlySources bridge bridge where
  channel := rfl
  pending := rfl
  completions := rfl
  reoriginated := rfl
  written := rfl
  completed := rfl
  writers := ⟨[], (List.append_nil _).symm, fun _ listed => nomatch listed⟩

theorem OnlySources.trans
    {before middle after : OuterBridge}
    (first : OnlySources before middle)
    (second : OnlySources middle after) : OnlySources before after where
  channel := second.channel.trans first.channel
  pending := second.pending.trans first.pending
  completions := second.completions.trans first.completions
  reoriginated := second.reoriginated.trans first.reoriginated
  written := second.written.trans first.written
  completed := second.completed.trans first.completed
  writers := by
    obtain ⟨earlier, same, idle⟩ := first.writers
    obtain ⟨later, same', idle'⟩ := second.writers
    refine ⟨earlier ++ later, ?_, ?_⟩
    · rw [same', same, List.append_assoc]
    · intro writer listed
      rcases List.mem_append.mp listed with old | new
      · exact idle writer old
      · exact idle' writer new

theorem OnlySources.foldl
    {step : OuterBridge → BridgeSource → OuterBridge}
    (each : ∀ bridge source, OnlySources bridge (step bridge source))
    (sources : List BridgeSource)
    (bridge : OuterBridge) :
    OnlySources bridge (sources.foldl step bridge) := by
  induction sources generalizing bridge with
  | nil => exact .refl bridge
  | cons source rest ih =>
      exact (each bridge source).trans (ih _)

theorem onlySources_requestSource
    (bridge : OuterBridge)
    (source : BridgeSource) :
    OnlySources bridge (bridge.requestSource source) :=
  { OnlySources.refl bridge with }

theorem onlySources_storeKind
    (bridge : OuterBridge)
    (source : BridgeSource) : OnlySources bridge (bridge.storeKind source) :=
  { OnlySources.refl bridge with }

theorem onlySources_attachSource
    (cached : List SourceKey)
    (bridge : OuterBridge)
    (source : BridgeSource) :
    OnlySources bridge (attachSource cached bridge source) := by
  unfold attachSource
  split
  · exact { OnlySources.refl bridge with }
  · refine
      { OnlySources.refl bridge with
        writers := ⟨_, rfl, ?_⟩ }
    intro writer listed
    rw [List.mem_singleton.mp listed]
    exact ⟨rfl, rfl⟩

theorem onlySources_createSources
    (bridge : OuterBridge)
    (sources : List BridgeSource)
    (progress : Progress) :
    OnlySources bridge (bridge.createSources sources progress) :=
  ((OnlySources.foldl onlySources_requestSource _ bridge).trans
    (OnlySources.foldl onlySources_storeKind _ _)).trans
      (OnlySources.foldl (onlySources_attachSource progress.cached) _ _)

variable {key : SourceKey}

theorem find?_removeObsolete
    {sources : List BridgeSource}
    {body : PendingBody} :
    (bridge.removeObsolete sources).pending.find? key = some body ↔
      bridge.pending.find? key = some body ∧
        key ∉ bridge.obsolete sources := by
  show (bridge.pending.filter fun key _ =>
    decide (key ∉ bridge.obsolete sources)).find? key = some body ↔ _
  rw [OrderedMap.find?_filter, Option.filter_eq_some_iff, decide_eq_true_eq]

theorem find?_reconcilePart
    {sources : List BridgeSource}
    {progress : Progress}
    {body : PendingBody} :
    (bridge.reconcilePart sources progress).pending.find? key = some body ↔
      bridge.pending.find? key = some body ∧
        key ∉ bridge.obsolete sources := by
  unfold reconcilePart
  rw [(onlySources_createSources _ _ progress).pending]
  exact find?_removeObsolete

theorem Faithful.onlySources
    (faithful : before.Faithful deliveries)
    (only : OnlySources before after) : after.Faithful deliveries := by
  refine faithful.less ?_ only.reoriginated only.written only.completed ?_
  · intro key body found
    rw [only.pending] at found
    exact found
  · intro writer listed
    obtain ⟨fresh, same, idle⟩ := only.writers
    rw [same] at listed
    rcases List.mem_append.mp listed with old | new
    · exact Or.inl old
    · exact Or.inr (idle writer new)

section

variable (faithful : bridge.Faithful deliveries) (sources : List BridgeSource)
include faithful

theorem Faithful.reconcilePart
    (progress : Progress) :
    (bridge.reconcilePart sources progress).Faithful deliveries := by
  refine Faithful.onlySources ?_ (onlySources_createSources _ _ progress)
  exact faithful.less (fun key body found => (find?_removeObsolete.mp found).1)
    rfl rfl rfl (fun _ listed => Or.inl listed)

theorem Faithful.reconcile
    (cached : List SourceKey) :
    (bridge.reconcile sources cached).Faithful deliveries :=
  { faithful.reconcilePart sources
      ⟨sources.length, sources.length, sources.length, cached⟩ with }

theorem Faithful.replaceSession
    (cached : List SourceKey) :
    (bridge.replaceSession sources cached).Faithful deliveries := by
  refine Faithful.reconcile ?_ sources cached
  exact faithful.less (fun key body found => nomatch found) rfl rfl rfl
    (fun _ listed => Or.inl listed)

end

theorem Faithful.writerTakes
    (faithful : before.Faithful deliveries)
    (stepped : before.writerTakes index = some after) :
    after.Faithful deliveries := by
  unfold OuterBridge.writerTakes at stepped
  split at stepped
  · cases stepped
  rename_i writer here
  split at stepped
  · cases stepped
  rename_i write rest queue
  split at stepped
  · cases stepped
  cases stepped
  have held := (faithful.writers writer (List.mem_of_getElem? here)).1
  rw [queue] at held
  refine faithful.setWriter
    (fun other inside => held other (List.mem_cons_of_mem _ inside)) ?_
  intro other same
  cases same
  exact held write List.mem_cons_self

theorem Faithful.writerFinishes
    {delivered : Bool}
    (faithful : before.Faithful deliveries)
    (stepped : before.writerFinishes index delivered = some after) :
    after.Faithful deliveries := by
  unfold OuterBridge.writerFinishes at stepped
  split at stepped
  · cases stepped
  rename_i writer here
  split at stepped
  · cases stepped
  split at stepped
  · cases stepped
  rename_i write current
  cases stepped
  have held := faithful.writers writer (List.mem_of_getElem? here)
  obtain ⟨delivery, there, id, -⟩ :=
    faithful.written write (held.2 write current)
  have finished : ({ before with
      writers := before.writers.set index
        { writer with
          current := none
          running := decide (writer.channel = before.channel) &&
            delivered } } : OuterBridge).Faithful deliveries :=
    faithful.setWriter held.1 (fun _ same => nomatch same)
  split
  · exact finished.complete there id
  · exact finished

theorem Faithful.writerEnds
    (faithful : before.Faithful deliveries)
    (stepped : before.writerEnds index = some after) :
    after.Faithful deliveries := by
  unfold OuterBridge.writerEnds at stepped
  split at stepped
  · cases stepped
  rename_i writer here
  split at stepped
  · cases stepped
    have held := faithful.writers writer (List.mem_of_getElem? here)
    exact faithful.setWriter held.1 held.2
  · cases stepped

end OuterBridge

namespace Worker

/-- All records between the session and the bridge. -/
def records (worker : Worker) : List BridgeMedia :=
  worker.deferred.toList ++ worker.queue ++ worker.incoming

/-- Every record is a chunk of its delivery, and the bridge is faithful. -/
structure Genuine (worker : Worker) : Prop where
  records : ∀ media ∈ worker.records, ∃ delivery,
    worker.deliveries[media.delivery]? = some delivery ∧
      CutFrom delivery media
  bridge : worker.bridge.Faithful worker.deliveries

theorem acknowledge_frame
    (worker : Worker)
    (deliveryId : Nat)
    (delivered : Bool) :
    ∃ acknowledged, worker.acknowledge deliveryId delivered =
      { worker with acknowledged := acknowledged } := by
  unfold acknowledge
  split
  · exact ⟨_, rfl⟩
  · exact ⟨_, rfl⟩

/-- Acknowledging many deliveries changes nothing else. -/
theorem foldl_acknowledge_frame
    {α : Type}
    (deliveryId : α → Nat)
    (delivered : α → Bool)
    (entries : List α)
    (worker : Worker) :
    ∃ acknowledged, entries.foldl (fun worker entry =>
        worker.acknowledge (deliveryId entry) (delivered entry)) worker =
      { worker with acknowledged := acknowledged } := by
  induction entries generalizing worker with
  | nil => exact ⟨_, rfl⟩
  | cons entry rest ih =>
      obtain ⟨first, same⟩ :=
        worker.acknowledge_frame (deliveryId entry) (delivered entry)
      obtain ⟨all, same'⟩ :=
        ih (worker.acknowledge (deliveryId entry)
          (delivered entry))
      refine ⟨all, ?_⟩
      rw [List.foldl_cons, same', same]

/-- Records may be dropped, and the bridge may do what keeps it faithful. -/
theorem Genuine.change
    {before after : Worker}
    (genuine : before.Genuine)
    (records : ∀ media ∈ after.records, ∃ same ∈ before.records,
      ∃ generation, media = { same with generation := generation })
    (deliveries : after.deliveries = before.deliveries)
    (bridge : after.bridge.Faithful before.deliveries) : after.Genuine where
  records := by
    intro media listed
    obtain ⟨same, here, generation, rfl⟩ := records media listed
    obtain ⟨delivery, there, cut⟩ := genuine.records same here
    rw [deliveries]
    exact ⟨delivery, there, { cut with }⟩
  bridge := by
    rw [deliveries]
    exact bridge

/-- The same records, at most. -/
theorem Genuine.subset
    {before after : Worker}
    (genuine : before.Genuine)
    (records : after.records ⊆ before.records)
    (deliveries : after.deliveries = before.deliveries)
    (bridge : after.bridge.Faithful before.deliveries) : after.Genuine :=
  genuine.change
    (fun media listed => ⟨media, records listed, media.generation, rfl⟩)
    deliveries bridge

variable {worker : Worker}

theorem nextMedia_records
    {media : BridgeMedia}
    {rest : List BridgeMedia}
    (next : worker.nextMedia = some (media, rest)) :
    worker.deferred.toList ++ worker.queue = media :: rest := by
  unfold nextMedia at next
  split at next
  · rename_i held deferred
    cases next
    rw [deferred]
    rfl
  · rename_i free
    split at next
    · cases next
    · rename_i first others queue
      cases next
      rw [free, queue]
      rfl

/-- What applying a snapshot does to the bridge keeps it faithful. -/
theorem faithful_applyTo
    {snapshot : BridgeSnapshot}
    {applying : Applying}
    {bridge : OuterBridge}
    {recreated : Option (List SourceKey)}
    {deliveries : List Delivery}
    (faithful : worker.bridge.Faithful deliveries)
    (applied : worker.applyTo snapshot applying = some (bridge, recreated)) :
    bridge.Faithful deliveries := by
  have part : ∀ progress,
      (failing worker.bridge snapshot.sources progress).Faithful
        deliveries := by
    intro progress
    cases progress with
    | none => exact faithful
    | some progress => exact faithful.reconcilePart snapshot.sources progress
  unfold applyTo at applied
  split at applied
  · split at applied
    · split at applied
      · cases applied
      · cases applied
        exact faithful.reconcile _ _
    · cases applied
      exact faithful
  · rename_i progress cached
    split at applied
    · cases applied
      exact (part progress).replaceSession _ _
    · cases applied
  · rename_i progress
    split at applied
    · cases applied
      exact part progress
    · cases applied

end Worker

/-- The record that the worker takes and forwards is not one that another
delivery's body waits for. -/
def FitsOwnDelivery
    (worker : Worker) :
    WorkerEvent → Prop
  | .take _ => ∀ media rest, worker.nextMedia = some (media, rest) →
      worker.verdict media = .forwarded → worker.bridge.FitsOwn media
  | _ => True

namespace Worker

/-- The worker takes a record. -/
theorem Genuine.taken
    {worker : Worker}
    {outcome : Reorigination}
    (genuine : worker.Genuine)
    (own : ∀ media rest, worker.nextMedia = some (media, rest) →
      worker.verdict media = .forwarded → worker.bridge.FitsOwn media) :
    (worker.taken outcome).Genuine := by
  unfold Worker.taken
  split
  · exact { genuine with }
  rename_i media rest next
  have listed := nextMedia_records next
  have records : worker.records = media :: rest ++ worker.incoming := by
    rw [Worker.records, listed]
  have fewer : (rest ++ worker.incoming) ⊆ worker.records := by
    rw [records]
    exact List.subset_cons_self _ _
  dsimp only
  split
  · refine genuine.subset ?_ rfl genuine.bridge
    rw [records]
    exact List.Subset.refl _
  · obtain ⟨acknowledged, same⟩ := acknowledge_frame
      { worker with
        phase := .poll
        deferred := none
        queue := rest } media.deliveryId false
    rw [same]
    exact genuine.subset fewer rfl genuine.bridge
  · exact genuine.subset fewer rfl genuine.bridge
  · rename_i forwarded
    obtain ⟨delivery, here, cut⟩ := genuine.records media (by
      rw [records]
      exact List.mem_cons_self)
    have bridge := genuine.bridge.mediaChunk here cut
      (own media rest next forwarded) outcome
    unfold Worker.forwarded
    dsimp only
    split
    · split
      · exact genuine.subset fewer rfl bridge
      · exact genuine.subset fewer rfl bridge
    · exact genuine.subset fewer rfl bridge
    · exact genuine.subset fewer rfl bridge

/-- Every event keeps the records and the bridge genuine. -/
theorem genuine_workerStep
    {before after : Worker}
    {event : WorkerEvent}
    (genuine : before.Genuine)
    (own : FitsOwnDelivery before event)
    (stepped : workerStep before event = some after) : after.Genuine := by
  cases event with
  | send delivery =>
      simp only [workerStep] at stepped
      split at stepped
      · cases stepped
      cases stepped
      refine ⟨?_, genuine.bridge.concat delivery⟩
      intro media listed
      rw [Worker.records] at listed
      rw [← List.append_assoc] at listed
      rcases List.mem_append.mp listed with old | new
      · obtain ⟨other, here, cut⟩ := genuine.records media old
        exact ⟨other, OuterBridge.getElem?_concat_some here, cut⟩
      · obtain ⟨cut, number⟩ := cutFrom_records media new
        refine ⟨delivery, ?_, cut⟩
        rw [number]
        exact List.getElem?_concat_length
  | queueMedia room =>
      simp only [workerStep] at stepped
      split at stepped
      · cases stepped
      rename_i media rest incoming
      cases stepped
      have records : before.records =
          before.deferred.toList ++ before.queue ++ media :: rest := by
        rw [Worker.records, incoming]
      cases room with
      | true =>
          refine genuine.change ?_ rfl genuine.bridge
          intro other listed
          have listed : other ∈ before.deferred.toList ++
              (before.queue ++
                [{ media with generation := before.generation }]) ++ rest :=
            listed
          rw [records]
          simp only [List.mem_append, List.mem_cons, List.mem_nil_iff,
            or_false] at listed ⊢
          rcases listed with (deferred | queued | rfl) | later
          · exact ⟨other, Or.inl (Or.inl deferred), _, rfl⟩
          · exact ⟨other, Or.inl (Or.inr queued), _, rfl⟩
          · exact ⟨media, Or.inr (Or.inl rfl), _, rfl⟩
          · exact ⟨other, Or.inr (Or.inr later), _, rfl⟩
      | false =>
          refine genuine.subset ?_ rfl genuine.bridge
          rw [records]
          intro other listed
          have listed : other ∈ before.deferred.toList ++ before.queue ++ rest :=
            listed
          simp only [List.mem_append, List.mem_cons] at listed ⊢
          rcases listed with old | later
          · exact Or.inl old
          · exact Or.inr (Or.inr later)
  | replaceSnapshot sources nodes =>
      cases stepped
      exact { genuine with }
  | poll losses =>
      simp only [workerStep] at stepped
      split at stepped
      · cases stepped
        unfold polled
        obtain ⟨acknowledged, same⟩ := foldl_acknowledge_frame
          MediaCompletion.deliveryId MediaCompletion.delivered
          before.bridge.completions before
        rw [same]
        refine genuine.subset (List.Subset.refl _) rfl ?_
        exact genuine.bridge.less (fun _ _ found => found) rfl rfl rfl
          (fun _ listed => Or.inl listed)
      · cases stepped
  | look applying =>
      simp only [workerStep] at stepped
      split at stepped
      · unfold looked at stepped
        split at stepped
        · cases stepped
          exact { genuine with }
        · obtain ⟨⟨bridge, recreated⟩, applied, rfl⟩ :=
            Option.map_eq_some_iff.mp stepped
          have kept := faithful_applyTo genuine.bridge applied
          cases recreated with
          | none => exact genuine.subset (List.Subset.refl _) rfl kept
          | some recreated =>
              dsimp only
              unfold projected
              split
              · exact genuine.subset (List.Subset.refl _) rfl kept
              · exact genuine.subset (List.Subset.refl _) rfl kept
      · cases stepped
  | answer =>
      simp only [workerStep] at stepped
      split at stepped
      · cases stepped
        unfold answered
        obtain ⟨acknowledged, same⟩ := foldl_acknowledge_frame
          (fun deliveryId : Nat => deliveryId) (fun _ => false)
          before.dropped before
        rw [same]
        exact { genuine with }
      · cases stepped
  | take outcome =>
      simp only [workerStep] at stepped
      split at stepped
      · cases stepped
        exact genuine.taken own
      · cases stepped
  | writerTakes index =>
      obtain ⟨bridge, taken, rfl⟩ := Option.map_eq_some_iff.mp stepped
      exact ⟨genuine.records, genuine.bridge.writerTakes taken⟩
  | writerFinishes index delivered =>
      obtain ⟨bridge, finished, rfl⟩ := Option.map_eq_some_iff.mp stepped
      exact ⟨genuine.records, genuine.bridge.writerFinishes finished⟩
  | writerEnds index =>
      obtain ⟨bridge, ended, rfl⟩ := Option.map_eq_some_iff.mp stepped
      exact ⟨genuine.records, genuine.bridge.writerEnds ended⟩

theorem genuine_reachable
    {worker : Worker}
    (reached : workerMachine.Reachable FitsOwnDelivery worker) :
    worker.Genuine := by
  have preserved : workerMachine.Preserved FitsOwnDelivery Genuine :=
    fun _ _ _ genuine own stepped => genuine_workerStep genuine own stepped
  refine reached.invariant ?_ preserved
  intro begin initial
  rw [initial]
  exact
    { records := fun _ listed => nomatch listed
      bridge :=
        { pending := fun _ _ found => nomatch found
          reoriginated := fun _ listed => nomatch listed
          written := fun _ listed => nomatch listed
          encoded := fun _ listed => nomatch listed
          writers := fun _ listed => nomatch listed
          completed := fun _ listed => nomatch listed } }

/-- No forwarded body is spliced from two deliveries. -/
structure Unspliced (worker : Worker) : Prop where
  reoriginated : ∀ entry ∈ worker.bridge.reoriginated,
    Bridge.Genuine worker.deliveries entry.delivery entry.deliveryId
      entry.source entry.recordType entry.body
  written : ∀ write ∈ worker.bridge.written,
    Bridge.Genuine worker.deliveries write.delivery write.deliveryId
      write.source write.recordType write.assembled
  encoded : ∀ write ∈ worker.bridge.written, write.body = write.assembled ∨
    ∃ entry ∈ worker.bridge.reoriginated, entry.delivery = write.delivery ∧
      entry.body = write.assembled
  completed : ∀ completion ∈ worker.bridge.completed,
    ∃ delivery, worker.deliveries[completion.delivery]? = some delivery ∧
      delivery.id = completion.deliveryId

end Worker

open Worker

/-- In every run in which no chunk fits the body of another delivery, no body
is spliced. -/
theorem bodies_unspliced
    {worker : Worker}
    (reached : workerMachine.Reachable FitsOwnDelivery worker) :
    worker.Unspliced := by
  have genuine := genuine_reachable reached
  exact
    { reoriginated := genuine.bridge.reoriginated
      written := genuine.bridge.written
      encoded := genuine.bridge.encoded
      completed := genuine.bridge.completed }

/-- Whether the record that the worker takes fits its own delivery. -/
def fitsOwnDelivery
    (worker : Worker) :
    WorkerEvent → Bool
  | .take _ =>
      match worker.nextMedia with
      | none => true
      | some (media, _) =>
          match worker.bridge.pending.find? media.source with
          | none => true
          | some body => decide (body.delivery = media.delivery)
  | _ => true

theorem fitsOwnDelivery_of_true
    (worker : Worker)
    (event : WorkerEvent)
    (passes : fitsOwnDelivery worker event = true) :
    FitsOwnDelivery worker event := by
  cases event with
  | take outcome =>
      intro media rest next _ body found _ _ _ _
      simp only [fitsOwnDelivery, next, found, decide_eq_true_eq] at passes
      exact passes
  | _ => trivial

/-- A video source that plays. -/
def videoSource :
    BridgeSource :=
  ⟨⟨1, 9⟩, .video 0, true⟩

/-- Two packets of the same length, in two chunks each. -/
def firstPacket :
    Delivery :=
  ⟨1, ⟨1, 9⟩, .videoPacket, [10, 11], [[12, 13]]⟩

def secondPacket :
    Delivery :=
  ⟨2, ⟨1, 9⟩, .videoPacket, [20, 21], [[22, 23]]⟩

/-- The worker has applied the projection of a video source. -/
def videoProjected :
    List WorkerEvent :=
  [.replaceSnapshot [videoSource] [], .poll [], .look (.done [])]

/-- The worker takes one record. -/
def workerTurn :
    List WorkerEvent :=
  [.poll [], .look (.done []), .answer, .take .failed]

/-- Both packets come in whole. -/
def bothWhole :
    List WorkerEvent :=
  videoProjected ++ [.send firstPacket, .send secondPacket,
    .queueMedia true, .queueMedia true, .queueMedia true, .queueMedia true] ++
    workerTurn ++ workerTurn ++ workerTurn ++ workerTurn

def afterBothWhole :
    Worker :=
  (Machine.follow workerStep fitsOwnDelivery start bothWhole).getD start

theorem bodies_unspliced_whole :
    (afterBothWhole.bridge.written.map fun write =>
        (write.deliveryId, write.body)) =
        [(2, [20, 21, 22, 23]), (1, [10, 11, 12, 13])] ∧
      afterBothWhole.Unspliced := by
  have followed :
      (Machine.follow workerStep fitsOwnDelivery start bothWhole).isSome =
        true := by
    decide +kernel
  obtain ⟨worker, same⟩ := Option.isSome_iff_exists.mp followed
  have here : afterBothWhole = worker := by
    rw [afterBothWhole, same, Option.getD_some]
  refine ⟨by decide +kernel, bodies_unspliced ?_⟩
  rw [here]
  exact Machine.Reachable.follow (fun _ _ _ stepped => stepped)
    fitsOwnDelivery_of_true (.initial rfl) same

/-- The queue has no room for the second chunk of the one packet and for the
first chunk of the other. -/
def halvesDropped :
    List WorkerEvent :=
  videoProjected ++ [.send firstPacket, .send secondPacket,
    .queueMedia true, .queueMedia false, .queueMedia false,
    .queueMedia true] ++
    workerTurn ++ workerTurn

def afterHalvesDropped :
    Worker :=
  (Machine.follow workerStep (fun _ _ => true) start halvesDropped).getD start

theorem body_spliced :
    ¬ ∀ worker : Worker,
      workerMachine.Reachable (fun _ _ => True) worker →
        worker.Unspliced := by
  intro always
  have followed :
      (Machine.follow workerStep (fun _ _ => true) start
        halvesDropped).isSome = true := by
    decide +kernel
  obtain ⟨worker, same⟩ := Option.isSome_iff_exists.mp followed
  have here : afterHalvesDropped = worker := by
    rw [afterHalvesDropped, same, Option.getD_some]
  have unspliced := always worker
    (Machine.Reachable.follow (fun _ _ _ stepped => stepped)
      (fun _ _ _ => trivial) (.initial rfl) same)
  rw [← here] at unspliced
  have spliced : [10, 11, 22, 23] ∈
      afterHalvesDropped.bridge.written.map MediaWrite.assembled := by
    decide +kernel
  obtain ⟨write, listed, assembled⟩ := List.mem_map.mp spliced
  obtain ⟨delivery, there, -, -, -, body⟩ := unspliced.written write listed
  have others : [10, 11, 22, 23] ∉
      afterHalvesDropped.deliveries.map Delivery.body := by
    decide +kernel
  refine others (List.mem_map.mpr ⟨delivery, List.mem_of_getElem? there, ?_⟩)
  exact body.trans assembled

end Bridge
end Vvmux
