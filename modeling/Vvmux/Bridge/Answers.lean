import Vvmux.Bridge.Reassembly

/-!
# Every delivery is answered

A delivery of which a chunk came to `queue_media` is with one of the owners
that will answer it, or was answered.  A writer that stops, and a session that
is replaced, take what they hold with them; the runs in which they hold nothing
that still has to be answered lose no delivery.
-/

namespace Vvmux

open Library

namespace Bridge

namespace MediaWriter

/-- A write of the delivery is with the writer. -/
def Has (writer : MediaWriter) (deliveryId : Nat) : Prop :=
  (∃ write ∈ writer.queue, write.deliveryId = deliveryId) ∨
    ∃ write, writer.current = some write ∧ write.deliveryId = deliveryId

end MediaWriter

namespace OuterBridge

/-- A running writer has a write of the delivery, or the completion channel
has its completion. -/
def Holds (bridge : OuterBridge) (deliveryId : Nat) : Prop :=
  (∃ writer ∈ bridge.writers, writer.running = true ∧ writer.Has deliveryId) ∨
    ∃ completion ∈ bridge.completions, completion.deliveryId = deliveryId

variable {bridge before after : OuterBridge} {deliveryId index : Nat}
  {writer : MediaWriter}

/-- Where one writer changes, a delivery is still held, or was with that
writer. -/
theorem Holds.setWriter
    (holds : bridge.Holds deliveryId)
    (here : bridge.writers[index]? = some writer)
    (changed : MediaWriter) :
    ({ bridge with
      writers := bridge.writers.set index changed } : OuterBridge).Holds
        deliveryId ∨
      writer.running = true ∧ writer.Has deliveryId := by
  rcases holds with ⟨holder, listed, runs, has⟩ | completed
  · obtain ⟨place, there⟩ := List.mem_iff_getElem?.mp listed
    by_cases same : index = place
    · rw [same] at here
      rw [here] at there
      cases there
      exact Or.inr ⟨runs, has⟩
    · refine Or.inl (Or.inl ⟨holder, ?_, runs, has⟩)
      refine List.mem_of_getElem? (i := place) ?_
      rw [List.getElem?_set_ne same]
      exact there
  · exact Or.inl (Or.inr completed)

/-- The changed writer holds what it has, if it runs. -/
theorem holds_setWriter
    {writer changed : MediaWriter}
    (here : bridge.writers[index]? = some writer)
    (runs : changed.running = true)
    (has : changed.Has deliveryId) :
    ({ bridge with
      writers := bridge.writers.set index changed } : OuterBridge).Holds
        deliveryId := by
  refine Or.inl ⟨changed, ?_, runs, has⟩
  exact List.mem_set (List.getElem?_eq_some_iff.mp here).1 changed

theorem Holds.complete
    {bridge : OuterBridge}
    {deliveryId : Nat}
    (holds : bridge.Holds deliveryId)
    (completion : MediaCompletion) :
    (bridge.complete completion).Holds deliveryId := by
  rcases holds with written | ⟨other, listed, same⟩
  · exact Or.inl written
  · exact Or.inr ⟨other, List.mem_append_left _ listed, same⟩

theorem holds_complete
    (bridge : OuterBridge)
    (completion : MediaCompletion) :
    (bridge.complete completion).Holds completion.deliveryId :=
  Or.inr ⟨completion, List.mem_append_right _ (List.mem_singleton_self _), rfl⟩

variable {write : MediaWrite}

/-- A write that is accepted is held, and so is what was held before. -/
theorem holds_sendWrite
    {bridge sent : OuterBridge}
    (accepted : bridge.sendWrite write = .ok sent) :
    sent.Holds write.deliveryId ∧
      ∀ deliveryId, bridge.Holds deliveryId → sent.Holds deliveryId := by
  obtain ⟨index, writer, -, here, runs, rfl⟩ := sendWrite_eq_ok accepted
  have queued : ∀ deliveryId,
      ({ writer with queue := writer.queue ++ [write] } : MediaWriter).Has
          deliveryId →
      ({ bridge with
        writers := bridge.writers.set index
          { writer with queue := writer.queue ++ [write] }
        written := write :: bridge.written } : OuterBridge).Holds
          deliveryId := by
    intro deliveryId has
    exact holds_setWriter here runs has
  refine ⟨queued _ (Or.inl ⟨write, ?_, rfl⟩), ?_⟩
  · exact List.mem_append_right _ (List.mem_singleton_self _)
  · intro deliveryId holds
    rcases holds.setWriter here
        { writer with queue := writer.queue ++ [write] } with
      still | ⟨-, ⟨other, listed, same⟩ | current⟩
    · exact still
    · exact queued _ (Or.inl ⟨other, List.mem_append_left _ listed, same⟩)
    · exact queued _ (Or.inr current)

theorem pending_sendWrite
    {bridge sent : OuterBridge}
    (accepted : bridge.sendWrite write = .ok sent) :
    sent.pending = bridge.pending := by
  obtain ⟨_, _, -, -, -, rfl⟩ := sendWrite_eq_ok accepted
  rfl

/-- What the bridge held, it holds; and a body that it took it holds as
well. -/
structure Takes
    (before after : OuterBridge)
    (deliveryId : Nat)
    (result : Except MediaError Bool) : Prop where
  pending : after.pending = before.pending
  kept : ∀ other, before.Holds other → after.Holds other
  taken : ∀ flag, result = .ok flag → after.Holds deliveryId

theorem takes_forward
    (bridge : OuterBridge)
    (media : BridgeMedia)
    (body : PendingBody)
    (outcome : Reorigination) :
    Takes bridge (bridge.forward media body outcome).1 media.deliveryId
      (bridge.forward media body outcome).2 := by
  have refused : ∀ {after : OuterBridge} {error : MediaError},
      after.pending = bridge.pending →
      (∀ other, bridge.Holds other → after.Holds other) →
      Takes bridge after media.deliveryId (.error error) :=
    fun pending kept => ⟨pending, kept, fun _ same => nomatch same⟩
  unfold OuterBridge.forward
  split
  · exact refused rfl (fun _ holds => holds)
  rename_i upstream known
  dsimp only
  split
  · split
    · exact refused rfl (fun _ holds => holds)
    split
    · exact refused rfl (fun _ holds => holds)
    · refine ⟨rfl, fun other holds => ?_, fun _ _ => holds_complete _ _⟩
      exact Holds.complete holds _
    · split
      · exact refused rfl (fun _ holds => holds)
      · rename_i sent accepted
        obtain ⟨taken, kept⟩ := holds_sendWrite accepted
        have pending := pending_sendWrite accepted
        exact ⟨pending, fun other holds => kept other holds,
          fun _ _ => taken⟩
  · split
    · exact refused rfl (fun _ holds => holds)
    · rename_i sent accepted
      obtain ⟨taken, kept⟩ := holds_sendWrite accepted
      exact ⟨pending_sendWrite accepted, kept, fun _ _ => taken⟩

theorem takes_completeCached
    (bridge : OuterBridge)
    (media : BridgeMedia)
    (body : PendingBody) :
    Takes bridge (bridge.completeCached media body).1 media.deliveryId
      (bridge.completeCached media body).2 := by
  unfold OuterBridge.completeCached
  split
  · exact ⟨rfl, fun _ holds => holds, fun _ same => nomatch same⟩
  · exact ⟨rfl, fun _ holds => holds.complete _,
      fun _ _ => holds_complete bridge _⟩

/-- What becomes of a chunk: it is refused, it completes a body that the
bridge then holds, or it becomes part of the pending body. -/
inductive Fate
    (before after : OuterBridge)
    (media : BridgeMedia)
    (result : Except MediaError Bool) :
    Prop
  | refused (error : MediaError) :
      result = .error error →
      after.pending = before.pending.erase media.source →
      Fate before after media result
  | taken (flag : Bool) :
      result = .ok flag → media.last = true →
      after.pending = before.pending.erase media.source →
      after.Holds media.deliveryId →
      Fate before after media result
  | stored (body : PendingBody) :
      result = .ok false → media.last = false →
      body.delivery = media.delivery →
      after.pending = before.pending.insert media.source body →
      Fate before after media result

theorem Takes.fate
    {media : BridgeMedia}
    {result : Except MediaError Bool}
    (takes : Takes (before.removePending media.source) after media.deliveryId
      result)
    (last : media.last = true) : Fate before after media result := by
  cases result with
  | error error => exact .refused error rfl takes.pending
  | ok flag => exact .taken flag rfl last takes.pending (takes.taken flag rfl)

theorem mediaChunk_fate
    (bridge : OuterBridge)
    (media : BridgeMedia)
    (outcome : Reorigination) :
    Fate bridge (bridge.mediaChunk media outcome).1 media
        (bridge.mediaChunk media outcome).2 ∧
      ∀ other, bridge.Holds other →
        (bridge.mediaChunk media outcome).1.Holds other := by
  unfold OuterBridge.mediaChunk
  dsimp only
  split
  · exact ⟨.refused _ rfl rfl, fun _ holds => holds⟩
  split
  · exact ⟨.refused _ rfl rfl, fun _ holds => holds⟩
  split
  · rename_i last
    split
    · exact ⟨.refused _ rfl rfl, fun _ holds => holds⟩
    split
    · have takes := takes_completeCached (bridge.removePending media.source)
        media (extend (bridge.pendingBody media) media)
      exact ⟨takes.fate last, fun other holds => takes.kept other holds⟩
    · have takes := takes_forward (bridge.removePending media.source)
        media (extend (bridge.pendingBody media) media) outcome
      exact ⟨takes.fate last, fun other holds => takes.kept other holds⟩
  · rename_i further
    exact ⟨.stored _ rfl (by simpa using further) rfl rfl,
      fun _ holds => holds⟩

theorem Holds.onlySources
    (holds : before.Holds deliveryId)
    (only : OnlySources before after) : after.Holds deliveryId := by
  rcases holds with ⟨writer, listed, held⟩ | ⟨completion, listed, same⟩
  · obtain ⟨fresh, writers, -⟩ := only.writers
    refine Or.inl ⟨writer, ?_, held⟩
    rw [writers]
    exact List.mem_append_left _ listed
  · refine Or.inr ⟨completion, ?_, same⟩
    rw [only.completions]
    exact listed

/-- The writers of a bridge outlast a reconciliation. -/
theorem mem_writers_reconcilePart
    (listed : writer ∈ bridge.writers)
    (sources : List BridgeSource)
    (progress : Progress) :
    writer ∈ (bridge.reconcilePart sources progress).writers := by
  obtain ⟨fresh, writers, -⟩ := (onlySources_createSources
    (bridge.removeObsolete sources) (creationOrder (sources.filter fun source =>
      decide (source.key ∈ bridge.recreated sources))) progress).writers
  rw [OuterBridge.reconcilePart, writers]
  exact List.mem_append_left _ listed

theorem mem_writers_replaceSession
    (listed : writer ∈ bridge.writers)
    (sources : List BridgeSource)
    (cached : List SourceKey) :
    writer ∈ (bridge.replaceSession sources cached).writers := by
  have connected : writer ∈ (connect (bridge.channel + 1) bridge.writers
      bridge.reoriginated bridge.written bridge.completed).writers := listed
  exact mem_writers_reconcilePart connected sources _

theorem Holds.reconcilePart
    (holds : bridge.Holds deliveryId)
    (sources : List BridgeSource)
    (progress : Progress) :
    (bridge.reconcilePart sources progress).Holds deliveryId := by
  have left : (bridge.removeObsolete sources).Holds deliveryId := holds
  exact left.onlySources (onlySources_createSources _ _ progress)

theorem Holds.writerTakes
    (holds : before.Holds deliveryId)
    (stepped : before.writerTakes index = some after) :
    after.Holds deliveryId := by
  unfold OuterBridge.writerTakes at stepped
  split at stepped
  · cases stepped
  rename_i writer here
  split at stepped
  · cases stepped
  rename_i write rest queue
  split at stepped
  · cases stepped
  rename_i free
  simp only [Bool.or_eq_true, not_or, Bool.not_eq_true,
    Option.isSome_eq_false_iff, Option.isNone_iff_eq_none] at free
  cases stepped
  rcases holds.setWriter here
      { writer with queue := rest, current := some write } with
    still | ⟨runs, ⟨other, listed, same⟩ | ⟨other, current, same⟩⟩
  · exact still
  · refine holds_setWriter here runs ?_
    rw [queue] at listed
    rcases List.mem_cons.mp listed with rfl | later
    · exact Or.inr ⟨other, rfl, same⟩
    · exact Or.inl ⟨other, later, same⟩
  · rw [free.2] at current
    cases current

theorem pending_writerTakes
    (stepped : before.writerTakes index = some after) :
    after.pending = before.pending := by
  unfold OuterBridge.writerTakes at stepped
  split at stepped
  · cases stepped
  split at stepped
  · cases stepped
  split at stepped
  · cases stepped
  · cases stepped
    rfl

theorem pending_writerEnds
    (stepped : before.writerEnds index = some after) :
    after.pending = before.pending := by
  unfold OuterBridge.writerEnds at stepped
  split at stepped
  · cases stepped
  split at stepped
  · cases stepped
    rfl
  · cases stepped

theorem Holds.writerEnds
    (holds : before.Holds deliveryId)
    (stepped : before.writerEnds index = some after) :
    after.Holds deliveryId := by
  unfold OuterBridge.writerEnds at stepped
  split at stepped
  · cases stepped
  rename_i writer here
  split at stepped
  · rename_i idle
    cases stepped
    simp only [Bool.and_eq_true, List.isEmpty_iff,
      Option.isNone_iff_eq_none] at idle
    rcases holds.setWriter here { writer with running := false } with
      still | ⟨-, ⟨other, listed, same⟩ | ⟨other, current, same⟩⟩
    · exact still
    · rw [idle.1.1] at listed
      cases listed
    · rw [idle.1.2] at current
      cases current
  · cases stepped

end OuterBridge

namespace Delivery

/-- The last chunk of a delivery says so. -/
theorem exists_last_recordsFrom
    (delivery : Delivery)
    (number offset : Nat)
    (bytes : List UInt8)
    (rest : List (List UInt8))
    (inside : offset + (bytes :: rest).flatten.length = delivery.body.length) :
    ∃ media ∈ delivery.recordsFrom number offset (bytes :: rest),
      media.last = true := by
  induction rest generalizing offset bytes with
  | nil =>
      refine ⟨_, List.mem_cons_self, ?_⟩
      rw [List.flatten_singleton] at inside
      simpa using inside
  | cons next later ih =>
      rw [List.flatten_cons, List.length_append] at inside
      obtain ⟨media, listed, last⟩ :=
        ih (offset + bytes.length) next (by omega)
      exact ⟨media, List.mem_cons_of_mem _ listed, last⟩

theorem exists_last_records
    (delivery : Delivery)
    (number : Nat) : ∃ media ∈ delivery.records number, media.last = true :=
  delivery.exists_last_recordsFrom number 0 _ _ (Nat.zero_add _)

end Delivery

namespace Worker

/-- The records that the worker has or will take without the reader. -/
def waiting (worker : Worker) : List BridgeMedia :=
  worker.deferred.toList ++ worker.queue

/-- The delivery is dropped and will be answered, or it was answered. -/
def Settled (worker : Worker) (deliveryId : Nat) : Prop :=
  deliveryId ∈ worker.dropped ∨
    ∃ delivered, (deliveryId, delivered) ∈ worker.acknowledged

/-- The delivery is settled, or the bridge holds its body. -/
def Placed (worker : Worker) (deliveryId : Nat) : Prop :=
  worker.Settled deliveryId ∨ worker.bridge.Holds deliveryId

/-- The delivery still has to be answered. -/
def Owes (worker : Worker) (deliveryId : Nat) : Prop :=
  deliveryId ≠ 0 ∧ ¬ worker.Settled deliveryId

/-- The rest of a pending body is yet to come to the reader, and none of it is
with the worker. -/
def Awaited (worker : Worker) (body : PendingBody) : Prop :=
  ∃ delivery, worker.deliveries[body.delivery]? = some delivery ∧
    worker.Owes delivery.id ∧
    (∃ media ∈ worker.incoming, media.delivery = body.delivery) ∧
    ∀ media ∈ worker.waiting, media.delivery ≠ body.delivery

/-- The pending body of the source does not outlast the snapshot. -/
def GivesUp
    (worker : Worker)
    (snapshot : BridgeSnapshot)
    (key : SourceKey) :
    Applying → Prop
  | .done _ => worker.change snapshot = .sources ∧
      key ∈ worker.bridge.obsolete snapshot.sources
  | .replaced _ _ => True
  | .failed none => False
  | .failed (some _) => key ∈ worker.bridge.obsolete snapshot.sources

/-- The snapshot replaces the session. -/
def Replaces :
    Applying → Prop
  | .replaced _ _ => True
  | _ => False

end Worker

open Worker

/-- A writer stops, and a snapshot takes a session or a pending body away,
only where nothing is lost that still has to be answered. -/
def LosesNothing
    (worker : Worker) :
    WorkerEvent → Prop
  | .look applying => ∀ snapshot, worker.snapshot = some snapshot →
      (Replaces applying → ∀ completion ∈ worker.bridge.completions,
        ¬ worker.Owes completion.deliveryId) ∧
      ∀ key body, worker.bridge.pending.find? key = some body →
        worker.GivesUp snapshot key applying → ¬ worker.Awaited body
  | .writerFinishes index delivered => ∀ writer write,
      worker.bridge.writers[index]? = some writer →
      writer.current = some write →
      (writer.channel ≠ worker.bridge.channel →
        ¬ worker.Owes write.deliveryId) ∧
      (writer.channel ≠ worker.bridge.channel ∨ delivered = false →
        ∀ queued ∈ writer.queue, ¬ worker.Owes queued.deliveryId)
  | _ => True

namespace Worker

/-- Where every delivery is, by its number. -/
structure Tracked (worker : Worker) : Prop where
  known : ∀ media ∈ worker.records, ∃ delivery,
    worker.deliveries[media.delivery]? = some delivery ∧
      delivery.id = media.deliveryId ∧ delivery.source = media.source
  passedKnown : ∀ media ∈ worker.passed, ∃ delivery,
    worker.deliveries[media.delivery]? = some delivery ∧
      delivery.id = media.deliveryId ∧ delivery.source = media.source
  pendingKnown : ∀ key body, worker.bridge.pending.find? key = some body →
    ∃ delivery, worker.deliveries[body.delivery]? = some delivery ∧
      delivery.source = key
  /-- Deliveries come one after another. -/
  ordered : worker.records.Pairwise fun left right =>
    left.delivery ≤ right.delivery
  pendingFirst : ∀ key body, worker.bridge.pending.find? key = some body →
    ∀ media ∈ worker.records, body.delivery ≤ media.delivery
  /-- The last chunk of a delivery is still to come, or it is placed. -/
  ahead : ∀ number delivery, worker.deliveries[number]? = some delivery →
    delivery.id ≠ 0 →
    (∃ media ∈ worker.records, media.delivery = number ∧
      media.last = true) ∨ worker.Placed delivery.id
  /-- A delivery that came to the reader is with the worker, in a pending
  body, or placed. -/
  begun : ∀ media ∈ worker.passed, media.deliveryId ≠ 0 →
    (∃ other ∈ worker.waiting, other.delivery = media.delivery) ∨
      (∃ key body, worker.bridge.pending.find? key = some body ∧
        body.delivery = media.delivery) ∨
      worker.Placed media.deliveryId

theorem records_eq
    (worker : Worker) :
    worker.records = worker.waiting ++ worker.incoming := rfl

variable {before after worker : Worker} {media : BridgeMedia}
  {rest : List BridgeMedia} {applying : Applying} {bridge : OuterBridge}

/-- The records stay, pending bodies that nobody awaits may go, and what is
placed stays placed. -/
theorem Tracked.keep
    (tracked : before.Tracked)
    (waiting : after.waiting = before.waiting)
    (incoming : after.incoming = before.incoming)
    (deliveries : after.deliveries = before.deliveries)
    (passed : after.passed = before.passed)
    (fewer : ∀ key body, after.bridge.pending.find? key = some body →
      before.bridge.pending.find? key = some body)
    (given : ∀ key body, before.bridge.pending.find? key = some body →
      after.bridge.pending.find? key = some body ∨ ¬ before.Awaited body)
    (placed : ∀ deliveryId, deliveryId ≠ 0 → before.Placed deliveryId →
      after.Placed deliveryId) :
    after.Tracked := by
  have records : after.records = before.records := by
    rw [records_eq, records_eq, waiting, incoming]
  exact
    { known := by
        rw [records, deliveries]
        exact tracked.known
      passedKnown := by
        rw [passed, deliveries]
        exact tracked.passedKnown
      pendingKnown := by
        rw [deliveries]
        exact fun key body found =>
          tracked.pendingKnown key body (fewer key body found)
      ordered := by
        rw [records]
        exact tracked.ordered
      pendingFirst := by
        rw [records]
        exact fun key body found =>
          tracked.pendingFirst key body (fewer key body found)
      ahead := by
        rw [records, deliveries]
        intro number delivery here named
        rcases tracked.ahead number delivery here named with later | done
        · exact Or.inl later
        · exact Or.inr (placed _ named done)
      begun := by
        rw [waiting, passed]
        intro media listed named
        rcases tracked.begun media listed named with
          held | ⟨key, body, found, same⟩ | done
        · exact Or.inl held
        · rcases given key body found with still | unawaited
          · exact Or.inr (Or.inl ⟨key, body, still, same⟩)
          · -- The last chunk is with the worker, or the delivery is placed.
            obtain ⟨delivery, here, id, -⟩ := tracked.passedKnown media listed
            by_cases held : ∃ other ∈ before.waiting,
                other.delivery = media.delivery
            · exact Or.inl held
            · have nowhere : ∀ other ∈ before.waiting,
                  other.delivery ≠ body.delivery := by
                intro other inside equal
                exact held ⟨other, inside, equal.trans same⟩
              refine Or.inr (Or.inr (placed _ named ?_))
              rcases tracked.ahead _ delivery here (by rw [id]; exact named)
                with ⟨other, inside, number, -⟩ | done
              · rw [records_eq] at inside
                rcases List.mem_append.mp inside with mine | coming
                · exact absurd ⟨other, mine, number⟩ held
                · by_contra lost
                  refine unawaited ⟨delivery, by rw [same]; exact here, ?_,
                    ⟨other, coming, number.trans same.symm⟩, nowhere⟩
                  rw [id]
                  exact ⟨named, fun settled => lost (Or.inl settled)⟩
              · rw [← id]
                exact done
        · exact Or.inr (Or.inr (placed _ named done)) }

variable {delivered : Bool}

theorem placed_acknowledge
    {deliveryId : Nat}
    (named : deliveryId ≠ 0) :
    (worker.acknowledge deliveryId delivered).Placed deliveryId := by
  unfold acknowledge
  rw [if_neg named]
  exact Or.inl (Or.inr ⟨delivered, List.mem_cons_self⟩)

/-- Acknowledging many deliveries keeps the acknowledgements there are, and
adds theirs. -/
theorem mem_foldl_acknowledge
    {α : Type}
    (deliveryId : α → Nat)
    (delivered : α → Bool)
    (entries : List α)
    (worker : Worker)
    {other : Nat}
    (named : other ≠ 0)
    (owed : (∃ delivered, (other, delivered) ∈ worker.acknowledged) ∨
      ∃ entry ∈ entries, deliveryId entry = other) :
    ∃ flag, (other, flag) ∈ (entries.foldl (fun worker entry =>
      worker.acknowledge (deliveryId entry) (delivered entry))
        worker).acknowledged := by
  induction entries generalizing worker with
  | nil => exact owed.resolve_right fun ⟨_, listed, _⟩ => nomatch listed
  | cons entry rest ih =>
      refine ih _ ?_
      rcases owed with ⟨flag, already⟩ | ⟨same, listed, equal⟩
      · refine Or.inl ⟨flag, ?_⟩
        dsimp only
        unfold acknowledge
        split
        · exact already
        · exact List.mem_cons_of_mem _ already
      · rcases List.mem_cons.mp listed with rfl | later
        · refine Or.inl ⟨delivered same, ?_⟩
          dsimp only
          unfold acknowledge
          rw [equal, if_neg named]
          exact List.mem_cons_self
        · exact Or.inr ⟨same, later, equal⟩

/-- The session sends a delivery. -/
theorem Tracked.send
    (tracked : worker.Tracked)
    (delivery : Delivery) :
    ({ worker with
      incoming := worker.incoming ++ delivery.records worker.deliveries.length
      deliveries := worker.deliveries ++ [delivery] } : Worker).Tracked := by
  have records : ∀ media ∈ worker.records ++
        delivery.records worker.deliveries.length,
      media ∈ worker.records ∨
        media ∈ delivery.records worker.deliveries.length :=
    fun media listed => List.mem_append.mp listed
  have all : ({ worker with
      incoming := worker.incoming ++ delivery.records worker.deliveries.length
      deliveries := worker.deliveries ++ [delivery] } : Worker).records =
        worker.records ++ delivery.records worker.deliveries.length :=
    (List.append_assoc _ _ _).symm
  have earlier : ∀ number other, worker.deliveries[number]? = some other →
      number < worker.deliveries.length :=
    fun number other here => (List.getElem?_eq_some_iff.mp here).1
  have number : ∀ media ∈ delivery.records worker.deliveries.length,
      media.delivery = worker.deliveries.length :=
    fun media listed => (cutFrom_records media listed).2
  exact
    { known := by
        rw [all]
        intro media listed
        rcases records media listed with old | new
        · obtain ⟨other, here, id⟩ := tracked.known media old
          exact ⟨other, OuterBridge.getElem?_concat_some here, id⟩
        · have cut := (cutFrom_records media new).1
          refine ⟨delivery, ?_, cut.deliveryId.symm, cut.source.symm⟩
          rw [number media new]
          exact List.getElem?_concat_length
      passedKnown := by
        intro media listed
        obtain ⟨other, here, id⟩ := tracked.passedKnown media listed
        exact ⟨other, OuterBridge.getElem?_concat_some here, id⟩
      pendingKnown := by
        intro key body found
        obtain ⟨other, here, source⟩ := tracked.pendingKnown key body found
        exact ⟨other, OuterBridge.getElem?_concat_some here, source⟩
      ordered := by
        rw [all]
        refine List.pairwise_append.mpr ⟨tracked.ordered, ?_, ?_⟩
        · refine List.pairwise_of_forall_mem_list ?_
          intro left listed right listed'
          rw [number left listed, number right listed']
        · intro left listed right listed'
          obtain ⟨other, here, -⟩ := tracked.known left listed
          rw [number right listed']
          exact (earlier _ _ here).le
      pendingFirst := by
        rw [all]
        intro key body found media listed
        rcases records media listed with old | new
        · exact tracked.pendingFirst key body found media old
        · obtain ⟨other, here, -⟩ := tracked.pendingKnown key body found
          rw [number media new]
          exact (earlier _ _ here).le
      ahead := by
        rw [all]
        intro place other here named
        rcases Nat.lt_or_ge place worker.deliveries.length with old | new
        · rw [List.getElem?_append_left old] at here
          rcases tracked.ahead place other here named with
            ⟨media, listed, later⟩ | done
          · exact Or.inl ⟨media, List.mem_append_left _ listed, later⟩
          · exact Or.inr done
        · obtain ⟨inside, -⟩ := List.getElem?_eq_some_iff.mp here
          rw [List.length_append, List.length_singleton] at inside
          obtain ⟨media, listed, last⟩ :=
            delivery.exists_last_records worker.deliveries.length
          refine Or.inl ⟨media, List.mem_append_right _ listed, ?_, last⟩
          rw [number media listed]
          omega
      begun := tracked.begun }

/-- The reader passes a record to `queue_media`. -/
theorem Tracked.queueMedia
    (tracked : worker.Tracked)
    (incoming : worker.incoming = media :: rest)
    (room : Bool) :
    (({ worker with incoming := rest } : Worker).queueMedia media
      room).Tracked := by
  have records : worker.records = worker.waiting ++ media :: rest := by
    rw [records_eq, incoming]
  have here : media ∈ worker.records := by
    rw [records]
    exact List.mem_append_right _ List.mem_cons_self
  cases room with
  | true =>
      -- The record moves on, with its generation.
      have moved : (({ worker with incoming := rest } : Worker).queueMedia
          media true).records = worker.waiting ++
            { media with generation := worker.generation } :: rest := by
        show worker.deferred.toList ++ (worker.queue ++
          [{ media with generation := worker.generation }]) ++ rest = _
        simp [Worker.waiting]
      have same : ∀ other ∈ worker.waiting ++
            { media with generation := worker.generation } :: rest,
          ∃ twin ∈ worker.records, twin.delivery = other.delivery ∧
            twin.deliveryId = other.deliveryId ∧
            twin.source = other.source := by
        rw [records]
        intro other listed
        rcases List.mem_append.mp listed with mine | listed
        · exact ⟨other, List.mem_append_left _ mine, rfl, rfl, rfl⟩
        · rcases List.mem_cons.mp listed with rfl | later
          · exact ⟨media, List.mem_append_right _ List.mem_cons_self, rfl, rfl,
              rfl⟩
          · exact ⟨other, List.mem_append_right _
              (List.mem_cons_of_mem _ later), rfl, rfl, rfl⟩
      exact
        { known := by
            rw [moved]
            intro other listed
            obtain ⟨twin, inside, number, id, source⟩ := same other listed
            rw [← number, ← id, ← source]
            exact tracked.known twin inside
          passedKnown := by
            intro other listed
            rcases List.mem_cons.mp listed with rfl | old
            · exact tracked.known other here
            · exact tracked.passedKnown other old
          pendingKnown := tracked.pendingKnown
          ordered := by
            rw [moved]
            have ordered := tracked.ordered
            rw [records] at ordered
            rw [List.pairwise_append, List.pairwise_cons] at ordered ⊢
            obtain ⟨first, ⟨next, later⟩, across⟩ := ordered
            refine ⟨first, ⟨next, later⟩, ?_⟩
            intro left listed right listed'
            rcases List.mem_cons.mp listed' with rfl | further
            · exact across left listed media List.mem_cons_self
            · exact across left listed right (List.mem_cons_of_mem _ further)
          pendingFirst := by
            rw [moved]
            intro key body found other listed
            obtain ⟨twin, inside, number, -⟩ := same other listed
            rw [← number]
            exact tracked.pendingFirst key body found twin inside
          ahead := by
            rw [moved]
            intro number delivery there named
            rcases tracked.ahead number delivery there named with
              ⟨other, listed, equal, last⟩ | done
            · rw [records] at listed
              rcases List.mem_append.mp listed with mine | listed
              · exact Or.inl ⟨other, List.mem_append_left _ mine, equal, last⟩
              · rcases List.mem_cons.mp listed with rfl | later
                · exact Or.inl ⟨_, List.mem_append_right _
                    List.mem_cons_self, equal, last⟩
                · exact Or.inl ⟨other, List.mem_append_right _
                    (List.mem_cons_of_mem _ later), equal, last⟩
            · exact Or.inr done
          begun := by
            intro other listed named
            have queued : ∀ mine ∈ worker.waiting, mine ∈
                worker.deferred.toList ++ (worker.queue ++
                  [{ media with generation := worker.generation }]) := by
              intro mine inside
              rw [← List.append_assoc]
              exact List.mem_append_left _ inside
            rcases List.mem_cons.mp listed with rfl | old
            · refine Or.inl ⟨{ other with generation := worker.generation },
                ?_, rfl⟩
              exact List.mem_append_right _
                (List.mem_append_right _ (List.mem_singleton_self _))
            · rcases tracked.begun other old named with
                ⟨mine, inside, equal⟩ | others
              · exact Or.inl ⟨mine, queued mine inside, equal⟩
              · exact Or.inr others }
  | false =>
      have fewer : (worker.waiting ++ rest) ⊆ worker.records := by
        rw [records]
        intro other listed
        rcases List.mem_append.mp listed with mine | later
        · exact List.mem_append_left _ mine
        · exact List.mem_append_right _ (List.mem_cons_of_mem _ later)
      have dropped : ∀ {deliveryId : Nat}, worker.Placed deliveryId →
          (({ worker with incoming := rest } : Worker).queueMedia media
            false).Placed deliveryId := by
        intro deliveryId placed
        rcases placed with (dropped | answered) | held
        · exact Or.inl (Or.inl (List.mem_cons_of_mem _ dropped))
        · exact Or.inl (Or.inr answered)
        · exact Or.inr held
      exact
        { known := fun other listed => tracked.known other (fewer listed)
          passedKnown := by
            intro other listed
            rcases List.mem_cons.mp listed with rfl | old
            · exact tracked.known other here
            · exact tracked.passedKnown other old
          pendingKnown := tracked.pendingKnown
          ordered := by
            refine tracked.ordered.sublist ?_
            rw [records]
            exact (List.sublist_cons_self media rest).append_left _
          pendingFirst := fun key body found other listed =>
            tracked.pendingFirst key body found other (fewer listed)
          ahead := by
            intro number delivery there named
            rcases tracked.ahead number delivery there named with
              ⟨other, listed, equal, last⟩ | done
            · rw [records] at listed
              rcases List.mem_append.mp listed with mine | listed
              · exact Or.inl ⟨other, List.mem_append_left _ mine, equal, last⟩
              · rcases List.mem_cons.mp listed with rfl | later
                · -- The last chunk is refused, and its delivery dropped.
                  have there : worker.deliveries[number]? = some delivery :=
                    there
                  obtain ⟨same, there', id, -⟩ := tracked.known other here
                  rw [equal, there] at there'
                  cases there'
                  rw [id]
                  exact Or.inr (Or.inl (Or.inl List.mem_cons_self))
                · exact Or.inl ⟨other, List.mem_append_right _ later, equal,
                    last⟩
            · exact Or.inr (dropped done)
          begun := by
            intro other listed named
            rcases List.mem_cons.mp listed with rfl | old
            · exact Or.inr (Or.inr (Or.inl (Or.inl List.mem_cons_self)))
            · rcases tracked.begun other old named with held | pending | done
              · exact Or.inl held
              · exact Or.inr (Or.inl pending)
              · exact Or.inr (Or.inr (dropped done)) }

/-- A pending body of an earlier delivery than the record in front has nothing
to come, so its delivery is placed. -/
theorem Tracked.placed_of_other
    {key : SourceKey}
    {body : PendingBody}
    {delivery : Delivery}
    (tracked : worker.Tracked)
    (front : worker.waiting = media :: rest)
    (found : worker.bridge.pending.find? key = some body)
    (other : body.delivery ≠ media.delivery)
    (here : worker.deliveries[body.delivery]? = some delivery)
    (named : delivery.id ≠ 0) : worker.Placed delivery.id := by
  have records : worker.records = media :: (rest ++ worker.incoming) := by
    rw [records_eq, front, List.cons_append]
  have ordered := tracked.ordered
  rw [records, List.pairwise_cons] at ordered
  have first := tracked.pendingFirst key body found
  rcases tracked.ahead _ delivery here named with
    ⟨twin, listed, number, -⟩ | done
  · have before := first media (by rw [records]; exact List.mem_cons_self)
    rw [records] at listed
    rcases List.mem_cons.mp listed with rfl | later
    · exact absurd number.symm other
    · have after := ordered.1 twin later
      omega
  · exact done

/-- The worker takes the record in front; it is placed, or part of the pending
body of its source. -/
theorem Tracked.takeFront
    (tracked : before.Tracked)
    (front : before.waiting = media :: rest)
    (waiting : after.waiting = rest)
    (incoming : after.incoming = before.incoming)
    (deliveries : after.deliveries = before.deliveries)
    (passed : after.passed = before.passed)
    (placed : ∀ deliveryId, deliveryId ≠ 0 → before.Placed deliveryId →
      after.Placed deliveryId)
    (pending : ∀ key body, after.bridge.pending.find? key = some body →
      before.bridge.pending.find? key = some body ∨
        key = media.source ∧ body.delivery = media.delivery)
    (others : ∀ key, key ≠ media.source →
      after.bridge.pending.find? key = before.bridge.pending.find? key)
    (fate : media.deliveryId ≠ 0 → after.Placed media.deliveryId ∨
      media.last = false ∧ ∃ key body,
        after.bridge.pending.find? key = some body ∧
          body.delivery = media.delivery) :
    after.Tracked := by
  have records : before.records = media :: (rest ++ before.incoming) := by
    rw [records_eq, front, List.cons_append]
  have records' : after.records = rest ++ before.incoming := by
    rw [records_eq, waiting, incoming]
  have fewer : ∀ other ∈ rest ++ before.incoming, other ∈ before.records := by
    rw [records]
    exact fun other listed => List.mem_cons_of_mem _ listed
  have here : media ∈ before.records := by
    rw [records]
    exact List.mem_cons_self
  have ordered := tracked.ordered
  rw [records, List.pairwise_cons] at ordered
  obtain ⟨number, known, id, source⟩ := tracked.known media here
  have sameId : ∀ other ∈ before.passed, other.delivery = media.delivery →
      other.deliveryId = media.deliveryId := by
    intro other listed same
    obtain ⟨delivery, there, id', -⟩ := tracked.passedKnown other listed
    rw [same, known] at there
    cases there
    rw [← id', id]
  exact
    { known := by
        rw [records', deliveries]
        exact fun other listed => tracked.known other (fewer other listed)
      passedKnown := by
        rw [passed, deliveries]
        exact tracked.passedKnown
      pendingKnown := by
        rw [deliveries]
        intro key body found
        rcases pending key body found with old | ⟨own, same⟩
        · exact tracked.pendingKnown key body old
        · rw [same, own]
          exact ⟨number, known, source⟩
      ordered := by
        rw [records']
        exact ordered.2
      pendingFirst := by
        rw [records']
        intro key body found other listed
        rcases pending key body found with old | ⟨-, same⟩
        · exact tracked.pendingFirst key body old other (fewer other listed)
        · rw [same]
          exact ordered.1 other listed
      ahead := by
        rw [records', deliveries]
        intro place delivery there named
        rcases tracked.ahead place delivery there named with
          ⟨twin, listed, equal, last⟩ | done
        · rw [records] at listed
          rcases List.mem_cons.mp listed with rfl | later
          · rw [equal, there] at known
            cases known
            rw [id] at named ⊢
            rcases fate named with settled | ⟨further, -⟩
            · exact Or.inr settled
            · rw [last] at further
              cases further
          · exact Or.inl ⟨twin, later, equal, last⟩
        · exact Or.inr (placed _ named done)
      begun := by
        rw [passed, waiting]
        intro other listed named
        have asFront : other.delivery = media.delivery →
            (∃ key body, after.bridge.pending.find? key = some body ∧
              body.delivery = other.delivery) ∨
              after.Placed other.deliveryId := by
          intro same
          have equal := sameId other listed same
          rw [equal] at named ⊢
          rcases fate named with settled | ⟨-, key, body, found, owner⟩
          · exact Or.inr settled
          · exact Or.inl ⟨key, body, found, owner.trans same.symm⟩
        rcases tracked.begun other listed named with
          ⟨mine, inside, same⟩ | ⟨key, body, found, same⟩ | done
        · rw [front] at inside
          rcases List.mem_cons.mp inside with rfl | later
          · exact Or.inr (asFront same.symm)
          · exact Or.inl ⟨mine, later, same⟩
        · by_cases owner : body.delivery = media.delivery
          · exact Or.inr (asFront (same.symm.trans owner))
          · by_cases source : key = media.source
            · obtain ⟨delivery, there, id', -⟩ :=
                tracked.passedKnown other listed
              refine Or.inr (Or.inr (placed _ named ?_))
              rw [← id'] at named ⊢
              refine tracked.placed_of_other front found owner ?_ named
              rw [same]
              exact there
            · refine Or.inr (Or.inl ⟨key, body, ?_, same⟩)
              rw [others key source]
              exact found
        · exact Or.inr (Or.inr (placed _ named done)) }

theorem Placed.acknowledge
    {other : Nat}
    (placed : worker.Placed other)
    (deliveryId : Nat)
    (delivered : Bool) :
    (worker.acknowledge deliveryId delivered).Placed other := by
  unfold Worker.acknowledge
  split
  · exact placed
  · rcases placed with (dropped | ⟨flag, answered⟩) | held
    · exact Or.inl (Or.inl dropped)
    · exact Or.inl (Or.inr ⟨flag, List.mem_cons_of_mem _ answered⟩)
    · exact Or.inr held

/-- What a record that goes to the bridge changes. -/
theorem forwarded_frame
    (worker : Worker)
    (media : BridgeMedia)
    (outcome : Reorigination) :
    ∃ retained dropped, worker.forwarded media outcome =
        { worker with
          bridge := (worker.bridge.mediaChunk media outcome).1
          retainedRehydration := retained
          dropped := dropped } ∧
      worker.dropped ⊆ dropped ∧
      ∀ error, (worker.bridge.mediaChunk media outcome).2 = .error error →
        media.deliveryId ∈ dropped := by
  unfold forwarded
  dsimp only
  cases result : (worker.bridge.mediaChunk media outcome).2 with
  | error error =>
      exact ⟨_, media.deliveryId :: worker.dropped, rfl,
        List.subset_cons_self _ _, fun _ _ => List.mem_cons_self⟩
  | ok flag =>
      cases flag with
      | false =>
          exact ⟨_, _, rfl, List.Subset.refl _, fun _ same => nomatch same⟩
      | true =>
          dsimp only
          split
          · exact ⟨_, _, rfl, List.Subset.refl _, fun _ same => nomatch same⟩
          · exact ⟨_, _, rfl, List.Subset.refl _, fun _ same => nomatch same⟩

/-- The worker takes a record. -/
theorem Tracked.taken
    (tracked : worker.Tracked)
    (outcome : Reorigination) : (worker.taken outcome).Tracked := by
  unfold Worker.taken
  split
  · exact { tracked with }
  rename_i media rest next
  have front : worker.waiting = media :: rest := nextMedia_records next
  dsimp only
  generalize popped : ({ worker with
    phase := .poll
    deferred := none
    queue := rest } : Worker) = after
  have waiting : after.waiting = rest := by
    rw [← popped]
    rfl
  have incoming : after.incoming = worker.incoming := by rw [← popped]
  have deliveries : after.deliveries = worker.deliveries := by rw [← popped]
  have passed : after.passed = worker.passed := by rw [← popped]
  have bridge : after.bridge = worker.bridge := by rw [← popped]
  have placed : ∀ deliveryId, worker.Placed deliveryId →
      after.Placed deliveryId := by
    rw [← popped]
    exact fun _ placed => placed
  split
  · -- A new snapshot comes first; the record is put aside.
    refine tracked.keep ?_ rfl rfl rfl (fun _ _ found => found)
      (fun _ _ found => Or.inl found) (fun _ _ done => done)
    rw [front]
    rfl
  · obtain ⟨acknowledged, same⟩ :=
      after.acknowledge_frame media.deliveryId false
    have answered : (after.acknowledge media.deliveryId false).bridge =
        worker.bridge := by
      rw [same]
      exact bridge
    refine tracked.takeFront front ?_ ?_ ?_ ?_
      (fun _ _ done => (placed _ done).acknowledge _ _) ?_ ?_ ?_
    · rw [same]
      exact waiting
    · rw [same]
      exact incoming
    · rw [same]
      exact deliveries
    · rw [same]
      exact passed
    · rw [answered]
      exact fun _ _ found => Or.inl found
    · rw [answered]
      exact fun _ _ => rfl
    · exact fun named => Or.inl (placed_acknowledge named)
  · -- A retained body that the source does not need; it has no ID.
    rename_i ignored
    have unnamed : media.deliveryId = 0 := by
      unfold verdict at ignored
      split at ignored
      · cases ignored
      split at ignored
      · cases ignored
      split at ignored
      · rename_i retained
        exact retained.1
      split at ignored
      · cases ignored
      split at ignored <;> cases ignored
    refine tracked.takeFront front waiting incoming deliveries passed
      (fun _ _ done => placed _ done) ?_ ?_ ?_
    · rw [bridge]
      exact fun _ _ found => Or.inl found
    · rw [bridge]
      exact fun _ _ => rfl
    · exact fun named => absurd unnamed named
  · obtain ⟨retained, dropped, same, more, refused⟩ :=
      after.forwarded_frame media outcome
    obtain ⟨fate, kept⟩ := after.bridge.mediaChunk_fate media outcome
    rw [same]
    have goes : ∀ deliveryId, worker.Placed deliveryId →
        ({ after with
          bridge := (after.bridge.mediaChunk media outcome).1
          retainedRehydration := retained
          dropped := dropped } : Worker).Placed deliveryId := by
      intro deliveryId done
      rcases placed deliveryId done with (old | answered) | held
      · exact Or.inl (Or.inl (more old))
      · exact Or.inl (Or.inr answered)
      · exact Or.inr (kept deliveryId held)
    have erased : (after.bridge.mediaChunk media outcome).1.pending =
          after.bridge.pending.erase media.source →
        (∀ key body, (after.bridge.mediaChunk media outcome).1.pending.find?
            key = some body → worker.bridge.pending.find? key = some body) ∧
          ∀ key, key ≠ media.source →
            (after.bridge.mediaChunk media outcome).1.pending.find? key =
              worker.bridge.pending.find? key := by
      intro pending
      rw [pending, bridge]
      constructor
      · intro key body found
        rw [OrderedMap.find?_erase] at found
        split at found
        · cases found
        · exact found
      · intro key other
        rw [OrderedMap.find?_erase, if_neg other]
    cases fate with
    | refused error result pending =>
        obtain ⟨fewer, others⟩ := erased pending
        exact tracked.takeFront front waiting incoming deliveries passed
          (fun _ _ done => goes _ done)
          (fun key body found => Or.inl (fewer key body found)) others
          (fun _ => Or.inl (Or.inl (Or.inl (refused error result))))
    | taken flag result last pending held =>
        obtain ⟨fewer, others⟩ := erased pending
        exact tracked.takeFront front waiting incoming deliveries passed
          (fun _ _ done => goes _ done)
          (fun key body found => Or.inl (fewer key body found)) others
          (fun _ => Or.inl (Or.inr held))
    | stored body result last owner pending =>
        rw [bridge] at pending
        refine tracked.takeFront front waiting incoming deliveries passed
          (fun _ _ done => goes _ done) ?_ ?_ ?_
        · intro key found same
          rw [bridge] at same
          rw [show ({ after with
            bridge := (worker.bridge.mediaChunk media outcome).1
            retainedRehydration := retained
            dropped := dropped } : Worker).bridge.pending = _ from pending,
            OrderedMap.find?_insert] at same
          split at same
          · rename_i source
            cases same
            exact Or.inr ⟨source, owner⟩
          · exact Or.inl same
        · intro key other
          show (after.bridge.mediaChunk media outcome).1.pending.find? key = _
          rw [bridge, pending, OrderedMap.find?_insert, if_neg other]
        · intro _
          refine Or.inr ⟨last, media.source, body, ?_, owner⟩
          show (after.bridge.mediaChunk media outcome).1.pending.find?
            media.source = _
          rw [bridge, pending, OrderedMap.find?_insert_self]

variable {recreated : Option (List SourceKey)} {snapshot : BridgeSnapshot}

/-- The pending bodies after a snapshot are those before it, less those that
it gives up. -/
theorem pending_applyTo
    (applied : worker.applyTo snapshot applying = some (bridge, recreated)) :
    (∀ key body, bridge.pending.find? key = some body →
      worker.bridge.pending.find? key = some body) ∧
    ∀ key body, worker.bridge.pending.find? key = some body →
      bridge.pending.find? key = some body ∨
        worker.GivesUp snapshot key applying := by
  have part : ∀ progress, ∀ key body,
      (worker.bridge.reconcilePart snapshot.sources progress).pending.find?
          key = some body ↔
        worker.bridge.pending.find? key = some body ∧
          key ∉ worker.bridge.obsolete snapshot.sources :=
    fun _ _ _ => OuterBridge.find?_reconcilePart
  unfold applyTo at applied
  split at applied
  · split at applied
    · rename_i sources
      split at applied
      · cases applied
      cases applied
      refine ⟨fun key body found => ((part _ key body).mp found).1, ?_⟩
      intro key body found
      by_cases gone : key ∈ worker.bridge.obsolete snapshot.sources
      · exact Or.inr ⟨sources, gone⟩
      · exact Or.inl ((part _ key body).mpr ⟨found, gone⟩)
    · cases applied
      exact ⟨fun _ _ found => found, fun _ _ found => Or.inl found⟩
  · split at applied
    · cases applied
      refine ⟨fun key body found => ?_, fun _ _ _ => Or.inr trivial⟩
      -- A new session has no pending body.
      have none := (OuterBridge.find?_reconcilePart.mp found).1
      cases none
    · cases applied
  · rename_i progress
    split at applied
    · cases applied
      cases progress with
      | none => exact ⟨fun _ _ found => found, fun _ _ found => Or.inl found⟩
      | some progress =>
          refine ⟨fun key body found => ((part _ key body).mp found).1, ?_⟩
          intro key body found
          by_cases gone : key ∈ worker.bridge.obsolete snapshot.sources
          · exact Or.inr gone
          · exact Or.inl ((part _ key body).mpr ⟨found, gone⟩)
    · cases applied

/-- What the bridge holds it holds after a snapshot, unless it is a completion
that goes with its session. -/
theorem holds_applyTo
    {deliveryId : Nat}
    (holds : worker.bridge.Holds deliveryId)
    (applied : worker.applyTo snapshot applying = some (bridge, recreated)) :
    bridge.Holds deliveryId ∨
      Replaces applying ∧ ∃ completion ∈ worker.bridge.completions,
        completion.deliveryId = deliveryId := by
  have part : ∀ progress,
      (failing worker.bridge snapshot.sources progress).Holds deliveryId := by
    intro progress
    cases progress with
    | none => exact holds
    | some progress => exact holds.reconcilePart snapshot.sources progress
  unfold applyTo at applied
  split at applied
  · split at applied
    · split at applied
      · cases applied
      · cases applied
        exact Or.inl (holds.reconcilePart _ _)
    · cases applied
      exact Or.inl holds
  · rename_i progress cached
    split at applied
    · cases applied
      rcases holds with written | completed
      · obtain ⟨writer, listed, held⟩ := written
        have still :
            writer ∈ (failing worker.bridge snapshot.sources
              progress).writers := by
          cases progress with
          | none => exact listed
          | some progress =>
              exact OuterBridge.mem_writers_reconcilePart listed _ progress
        refine Or.inl (Or.inl ⟨writer, ?_, held⟩)
        exact OuterBridge.mem_writers_replaceSession still _ _
      · exact Or.inr ⟨trivial, completed⟩
    · cases applied
  · rename_i progress
    split at applied
    · cases applied
      exact Or.inl (part progress)
    · cases applied

/-- The worker applies a snapshot. -/
theorem Tracked.looked
    (tracked : before.Tracked)
    (losesNothing : LosesNothing before (.look applying))
    (stepped : before.looked applying = some after) : after.Tracked := by
  unfold Worker.looked at stepped
  split at stepped
  · cases stepped
    exact { tracked with }
  rename_i snapshot waits
  obtain ⟨replaces, givesUp⟩ := losesNothing snapshot waits
  obtain ⟨⟨bridge, recreated⟩, applied, same⟩ :=
    Option.map_eq_some_iff.mp stepped
  obtain ⟨fewer, given⟩ := pending_applyTo applied
  have frame : after.deferred = before.deferred ∧ after.queue = before.queue ∧
      after.incoming = before.incoming ∧
      after.deliveries = before.deliveries ∧ after.passed = before.passed ∧
      after.dropped = before.dropped ∧
      after.acknowledged = before.acknowledged ∧ after.bridge = bridge := by
    rw [← same]
    cases recreated with
    | none => exact ⟨rfl, rfl, rfl, rfl, rfl, rfl, rfl, rfl⟩
    | some recreated =>
        dsimp only
        unfold projected
        split
        · exact ⟨rfl, rfl, rfl, rfl, rfl, rfl, rfl, rfl⟩
        · exact ⟨rfl, rfl, rfl, rfl, rfl, rfl, rfl, rfl⟩
  obtain ⟨deferred, queue, incoming, deliveries, passed, dropped, acknowledged,
    held⟩ := frame
  have settled : ∀ deliveryId, before.Settled deliveryId →
      after.Settled deliveryId := by
    intro deliveryId settled
    unfold Settled at settled ⊢
    rw [dropped, acknowledged]
    exact settled
  refine tracked.keep ?_ incoming deliveries passed ?_ ?_ ?_
  · rw [waiting, waiting, deferred, queue]
  · rw [held]
    exact fewer
  · rw [held]
    intro key body found
    rcases given key body found with still | gone
    · exact Or.inl still
    · exact Or.inr (givesUp key body found gone)
  · intro deliveryId named placed
    rcases placed with done | holds
    · exact Or.inl (settled deliveryId done)
    · rcases holds_applyTo holds applied with
        still | ⟨replaced, completion, listed, equal⟩
      · refine Or.inr ?_
        rw [held]
        exact still
      · -- The completion is lost; its delivery is settled already.
        have free := replaces replaced completion listed
        rw [equal] at free
        refine Or.inl (settled deliveryId ?_)
        by_contra owed
        exact free ⟨named, owed⟩

/-- A writer has written its current write, or could not. -/
theorem Tracked.writerFinishes
    {index : Nat}
    (tracked : worker.Tracked)
    (losesNothing : LosesNothing worker (.writerFinishes index delivered))
    (stepped : worker.bridge.writerFinishes index delivered = some bridge) :
    ({ worker with bridge := bridge } : Worker).Tracked := by
  unfold OuterBridge.writerFinishes at stepped
  split at stepped
  · cases stepped
  rename_i writer here
  split at stepped
  · cases stepped
  split at stepped
  · cases stepped
  rename_i write current
  obtain ⟨unheard, stops⟩ := losesNothing writer write here current
  cases stepped
  have owed : ∀ {deliveryId : Nat}, deliveryId ≠ 0 →
      ¬ worker.Owes deliveryId → worker.Settled deliveryId := by
    intro deliveryId named free
    by_contra unsettled
    exact free ⟨named, unsettled⟩
  refine tracked.keep rfl rfl rfl rfl ?_ ?_ ?_
  · intro key body found
    split at found
    · exact found
    · exact found
  · intro key body found
    refine Or.inl ?_
    split
    · exact found
    · exact found
  · intro deliveryId named placed
    rcases placed with settled | holds
    · exact Or.inl settled
    split
    · rename_i listened
      rcases holds.setWriter here
          { writer with
            current := none
            running := decide (writer.channel = worker.bridge.channel) &&
              delivered } with
        still | ⟨-, ⟨queued, listed, same⟩ | ⟨other, current', same⟩⟩
      · exact Or.inr (still.complete _)
      · cases delivered with
        | true =>
            refine Or.inr (OuterBridge.Holds.complete ?_ _)
            refine OuterBridge.holds_setWriter here ?_
              (Or.inl ⟨queued, listed, same⟩)
            rw [Bool.and_true]
            exact listened
        | false =>
            have free := stops (Or.inr rfl) queued listed
            rw [same] at free
            exact Or.inl (owed named free)
      · rw [current] at current'
        cases current'
        refine Or.inr ?_
        rw [← same]
        exact OuterBridge.holds_complete _ ⟨write.deliveryId, _, _⟩
    · rename_i unheard'
      have elsewhere : writer.channel ≠ worker.bridge.channel := by
        simpa using unheard'
      rcases holds.setWriter here
          { writer with
            current := none
            running := decide (writer.channel = worker.bridge.channel) &&
              delivered } with
        still | ⟨-, ⟨queued, listed, same⟩ | ⟨other, current', same⟩⟩
      · exact Or.inr still
      · have free := stops (Or.inl elsewhere) queued listed
        rw [same] at free
        exact Or.inl (owed named free)
      · rw [current] at current'
        cases current'
        have free := unheard elsewhere
        rw [same] at free
        exact Or.inl (owed named free)

/-- Every event that loses nothing keeps track of the deliveries. -/
theorem tracked_workerStep
    {event : WorkerEvent}
    (tracked : before.Tracked)
    (losesNothing : LosesNothing before event)
    (stepped : workerStep before event = some after) : after.Tracked := by
  cases event with
  | send delivery =>
      simp only [workerStep] at stepped
      split at stepped
      · cases stepped
      · cases stepped
        exact tracked.send delivery
  | queueMedia room =>
      simp only [workerStep] at stepped
      split at stepped
      · cases stepped
      · rename_i media rest incoming
        cases stepped
        exact tracked.queueMedia incoming room
  | replaceSnapshot sources nodes =>
      cases stepped
      exact { tracked with }
  | poll losses =>
      simp only [workerStep] at stepped
      split at stepped
      · cases stepped
        unfold polled
        have answered := fun {other : Nat} (named : other ≠ 0) =>
          mem_foldl_acknowledge MediaCompletion.deliveryId
            MediaCompletion.delivered before.bridge.completions before named
        obtain ⟨acknowledged, same⟩ := foldl_acknowledge_frame
          MediaCompletion.deliveryId MediaCompletion.delivered
          before.bridge.completions before
        rw [same] at answered ⊢
        refine tracked.keep rfl rfl rfl rfl (fun _ _ found => found)
          (fun _ _ found => Or.inl found) ?_
        intro deliveryId named placed
        rcases placed with (dropped | done) | written | completed
        · exact Or.inl (Or.inl dropped)
        · exact Or.inl (Or.inr (answered named (Or.inl done)))
        · exact Or.inr (Or.inl written)
        · exact Or.inl (Or.inr (answered named (Or.inr completed)))
      · cases stepped
  | look applying =>
      simp only [workerStep] at stepped
      split at stepped
      · exact tracked.looked losesNothing stepped
      · cases stepped
  | answer =>
      simp only [workerStep] at stepped
      split at stepped
      · cases stepped
        unfold answered
        have answered := fun {other : Nat} (named : other ≠ 0) =>
          mem_foldl_acknowledge (fun deliveryId : Nat => deliveryId)
            (fun _ => false) before.dropped before named
        obtain ⟨acknowledged, same⟩ := foldl_acknowledge_frame
          (fun deliveryId : Nat => deliveryId) (fun _ => false)
          before.dropped before
        rw [same] at answered ⊢
        refine tracked.keep rfl rfl rfl rfl (fun _ _ found => found)
          (fun _ _ found => Or.inl found) ?_
        intro deliveryId named placed
        rcases placed with (dropped | done) | held
        · exact Or.inl (Or.inr
            (answered named (Or.inr ⟨deliveryId, dropped, rfl⟩)))
        · exact Or.inl (Or.inr (answered named (Or.inl done)))
        · exact Or.inr held
      · cases stepped
  | take outcome =>
      simp only [workerStep] at stepped
      split at stepped
      · cases stepped
        exact tracked.taken outcome
      · cases stepped
  | writerTakes index =>
      obtain ⟨bridge, taken, rfl⟩ := Option.map_eq_some_iff.mp stepped
      have pending := OuterBridge.pending_writerTakes taken
      refine tracked.keep rfl rfl rfl rfl ?_ ?_ ?_
      · rw [pending]
        exact fun _ _ found => found
      · rw [pending]
        exact fun _ _ found => Or.inl found
      · intro deliveryId _ placed
        exact placed.imp_right fun holds => holds.writerTakes taken
  | writerFinishes index delivered =>
      obtain ⟨bridge, finished, rfl⟩ := Option.map_eq_some_iff.mp stepped
      exact tracked.writerFinishes losesNothing finished
  | writerEnds index =>
      obtain ⟨bridge, ended, rfl⟩ := Option.map_eq_some_iff.mp stepped
      have pending := OuterBridge.pending_writerEnds ended
      refine tracked.keep rfl rfl rfl rfl ?_ ?_ ?_
      · rw [pending]
        exact fun _ _ found => found
      · rw [pending]
        exact fun _ _ found => Or.inl found
      · intro deliveryId _ placed
        exact placed.imp_right fun holds => holds.writerEnds ended

theorem tracked_reachable
    (reached : workerMachine.Reachable LosesNothing worker) :
    worker.Tracked := by
  have preserved : workerMachine.Preserved LosesNothing Tracked :=
    fun _ _ _ tracked losesNothing stepped =>
      tracked_workerStep tracked losesNothing stepped
  refine reached.invariant ?_ preserved
  intro begin initial
  rw [initial]
  exact
    { known := fun _ listed => nomatch listed
      passedKnown := fun _ listed => nomatch listed
      pendingKnown := fun _ _ found => nomatch found
      ordered := List.Pairwise.nil
      pendingFirst := fun _ _ found => nomatch found
      ahead := fun _ _ here => nomatch here
      begun := fun _ listed => nomatch listed }

/-- Every delivery that came to the reader is with an owner that will answer
it, or was answered. -/
def Answered (worker : Worker) : Prop :=
  ∀ media ∈ worker.passed, media.deliveryId ≠ 0 →
    -- in the queue, or set aside
    (∃ other ∈ worker.deferred.toList ++ worker.queue,
      other.deliveryId = media.deliveryId) ∨
    -- in a pending body of its source
    (∃ body delivery, worker.bridge.pending.find? media.source = some body ∧
      worker.deliveries[body.delivery]? = some delivery ∧
      delivery.id = media.deliveryId) ∨
    media.deliveryId ∈ worker.dropped ∨
    -- with a writer that runs
    (∃ writer ∈ worker.bridge.writers, writer.running = true ∧
      writer.Has media.deliveryId) ∨
    (∃ completion ∈ worker.bridge.completions,
      completion.deliveryId = media.deliveryId) ∨
    ∃ delivered, (media.deliveryId, delivered) ∈ worker.acknowledged

end Worker

/-- In every run in which nothing is lost that still has to be answered, every
delivery is with an owner that will answer it, or was answered. -/
theorem deliveries_answered
    {worker : Worker}
    (reached : workerMachine.Reachable LosesNothing worker) :
    worker.Answered := by
  have tracked := tracked_reachable reached
  intro media listed named
  obtain ⟨delivery, here, id, source⟩ := tracked.passedKnown media listed
  rcases tracked.begun media listed named with
    ⟨other, inside, same⟩ | ⟨key, body, found, same⟩ | placed
  · obtain ⟨delivery', there, id', -⟩ := tracked.known other
      (List.mem_append_left _ inside)
    rw [same, here] at there
    cases there
    exact Or.inl ⟨other, inside, id'.symm.trans id⟩
  · obtain ⟨delivery', there, source'⟩ := tracked.pendingKnown key body found
    have there' := there
    rw [same, here] at there'
    cases there'
    rw [← source', source] at found
    exact Or.inr (Or.inl ⟨body, delivery, found, there, id⟩)
  · rcases placed with (dropped | answered) | written | completed
    · exact Or.inr (Or.inr (Or.inl dropped))
    · exact Or.inr (Or.inr (Or.inr (Or.inr (Or.inr answered))))
    · exact Or.inr (Or.inr (Or.inr (Or.inl written)))
    · exact Or.inr (Or.inr (Or.inr (Or.inr (Or.inl completed))))

/-- Whether an event surely loses nothing. -/
def losesNothing
    (worker : Worker) :
    WorkerEvent → Bool
  | .look _ => worker.snapshot.isNone ||
      (worker.bridge.pending.entries.isEmpty &&
        worker.bridge.completions.isEmpty)
  | .writerFinishes _ delivered => delivered &&
      worker.bridge.writers.all fun writer =>
        decide (writer.channel = worker.bridge.channel)
  | _ => true

theorem losesNothing_of_true
    (worker : Worker)
    (event : WorkerEvent)
    (passes : losesNothing worker event = true) :
    LosesNothing worker event := by
  cases event with
  | look applying =>
      intro snapshot waits
      simp only [losesNothing, waits, Option.isNone_some, Bool.false_or,
        Bool.and_eq_true, List.isEmpty_iff] at passes
      refine ⟨fun _ completion listed => ?_, fun key body found => ?_⟩
      · rw [passes.2] at listed
        cases listed
      · rw [OrderedMap.find?_eq_some_iff, passes.1] at found
        cases found
  | writerFinishes index delivered =>
      intro writer write here _
      simp only [losesNothing, Bool.and_eq_true, List.all_eq_true,
        decide_eq_true_eq] at passes
      have same := passes.2 writer (List.mem_of_getElem? here)
      refine ⟨fun other => absurd same other, fun stops => ?_⟩
      rcases stops with other | failed
      · exact absurd same other
      · rw [passes.1] at failed
        cases failed
  | _ => trivial

/-- The one packet is written; of the other the second chunk is dropped. -/
def writtenAndDropped :
    List WorkerEvent :=
  videoProjected ++ [.send firstPacket, .send secondPacket,
    .queueMedia true, .queueMedia true, .queueMedia true,
    .queueMedia false] ++
    workerTurn ++ workerTurn ++ workerTurn ++
    [.writerTakes 0, .writerFinishes 0 true] ++ workerTurn

def afterWrittenAndDropped :
    Worker :=
  (Machine.follow workerStep losesNothing start writtenAndDropped).getD start

theorem deliveries_answered_written :
    afterWrittenAndDropped.acknowledged = [(1, true), (2, false)] ∧
      afterWrittenAndDropped.Answered := by
  have followed :
      (Machine.follow workerStep losesNothing start
        writtenAndDropped).isSome = true := by
    decide +kernel
  obtain ⟨worker, same⟩ := Option.isSome_iff_exists.mp followed
  have here : afterWrittenAndDropped = worker := by
    rw [afterWrittenAndDropped, same, Option.getD_some]
  refine ⟨by decide +kernel, deliveries_answered ?_⟩
  rw [here]
  exact Machine.Reachable.follow (fun _ _ _ stepped => stepped)
    losesNothing_of_true (.initial rfl) same

/-- The writer could not write the one packet, and stops with the other in its
queue. -/
def writerStops :
    List WorkerEvent :=
  bothWhole ++ [.writerTakes 0, .writerFinishes 0 false]

def afterWriterStops :
    Worker :=
  (Machine.follow workerStep (fun _ _ => true) start writerStops).getD start

theorem delivery_forgotten :
    ¬ ∀ worker : Worker,
      workerMachine.Reachable (fun _ _ => True) worker → worker.Answered := by
  intro always
  have followed :
      (Machine.follow workerStep (fun _ _ => true) start
        writerStops).isSome = true := by
    decide +kernel
  obtain ⟨worker, same⟩ := Option.isSome_iff_exists.mp followed
  have here : afterWriterStops = worker := by
    rw [afterWriterStops, same, Option.getD_some]
  have answered := always worker
    (Machine.Reachable.follow (fun _ _ _ stepped => stepped)
      (fun _ _ _ => trivial) (.initial rfl) same)
  rw [← here] at answered
  have passed : (2, (⟨1, 9⟩ : SourceKey)) ∈
      afterWriterStops.passed.map fun media =>
        (media.deliveryId, media.source) := by
    decide +kernel
  obtain ⟨media, listed, second⟩ := List.mem_map.mp passed
  obtain ⟨id, source⟩ := (Prod.mk.injEq ..).mp second
  have named : media.deliveryId ≠ 0 := by
    rw [id]
    decide
  have nowhere := answered media listed named
  rw [id, source] at nowhere
  rcases nowhere with ⟨other, inside, -⟩ | ⟨body, -, found, -⟩ | dropped |
    ⟨writer, inside, runs, -⟩ | ⟨completion, inside, equal⟩ | ⟨flag, inside⟩
  · have none : (afterWriterStops.deferred.toList ++
        afterWriterStops.queue).length = 0 := by
      decide +kernel
    rw [List.length_eq_zero_iff.mp none] at inside
    cases inside
  · have none : (afterWriterStops.bridge.pending.find? ⟨1, 9⟩).isSome =
        false := by
      decide +kernel
    rw [found] at none
    cases none
  · have none : 2 ∉ afterWriterStops.dropped := by
      decide +kernel
    exact none dropped
  · have stopped : ∀ writer ∈ afterWriterStops.bridge.writers,
        writer.running = false := by
      decide +kernel
    rw [stopped writer inside] at runs
    cases runs
  · have others : ∀ completion ∈ afterWriterStops.bridge.completions,
        completion.deliveryId ≠ 2 := by
      decide +kernel
    exact others completion inside equal
  · have none : afterWriterStops.acknowledged = [] := by
      decide +kernel
    rw [none] at inside
    cases inside

end Bridge
end Vvmux
