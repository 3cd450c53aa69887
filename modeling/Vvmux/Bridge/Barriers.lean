import Mathlib.Data.List.Count
import Vvmux.Bridge.OuterBridge
import Vvmux.Library.Machine

/-!
# The barrier of an outer `EOS`

Where the outer session negotiated media-order barriers, the `EOS` of a source
names the attachment of its media channel and the last record written there.
The worker asks the writer thread for that record through the writer's queue
and waits.  The attachment it counts for the inner key; the outer presenter
counts for the outer source, which has a new ID whenever it is created again.
-/

namespace Vvmux

open Library

namespace Bridge

/-- `MediaWriterCommand`, without the body of a write. -/
inductive WriterCommand where
  | write
  | barrier
deriving DecidableEq

/-- A thread that runs `run_media_writer`. -/
structure ChannelThread where
  /-- The outer source that its channel was attached to. -/
  upstream : Nat
  queue : List WriterCommand
  lastRecordSequence : Nat
  running : Bool
  /-- History: the sequences of the records it wrote, the last one first. -/
  recorded : List Nat
deriving DecidableEq

/-- A call of `end_source` that waits for the writer. -/
structure Ending where
  key : SourceKey
  upstream : Nat
  epoch : Nat
  thread : Nat
  /-- What the writer replied. -/
  reply : Option Nat
  /-- History: what the thread had written when it replied. -/
  recordedThen : List Nat
deriving DecidableEq

/-- An `EOS` that was sent, and its barrier. -/
structure Eos where
  upstream : Nat
  epoch : Nat
  barrier : Option (Nat × Nat)
  /-- History: the outer source of the channel that was asked. -/
  channel : Nat
  /-- History: what that channel had written when the barrier was reached. -/
  recordedThen : List Nat
  /-- History: the channels attached so far to the outer source. -/
  attachedThen : Nat
  /-- History: the outer sources made so far for the inner key. -/
  readiedThen : Nat
deriving DecidableEq

/-- One outer session that negotiated media-order barriers. -/
structure BarrierSession where
  nextSource : Nat
  sourceIds : OrderedMap SourceKey Nat
  sourceKinds : OrderedMap SourceKey BridgeSourceKind
  /-- `outer_attachment_generations` -/
  generations : OrderedMap SourceKey Nat
  media : OrderedMap SourceKey Nat
  threads : List ChannelThread
  ending : Option Ending
  /-- The worker gave the session up. -/
  failed : Bool
  /-- History: the outer sources to which a channel was attached. -/
  attached : List Nat
  /-- History: the inner keys whose `SOURCE_READY` was handled. -/
  readied : List SourceKey
  /-- History -/
  sent : List Eos

/-- How the creation of a source turns out. -/
inductive Creation where
  /-- There is no `SOURCE_READY`. -/
  | refused
  /-- The presenter has the image already. -/
  | cacheHit
  /-- The media channel cannot be opened or attached. -/
  | unattached
  | attached
deriving DecidableEq

/-- The largest value of an attachment generation. -/
def maxGeneration : Nat := 2 ^ 64 - 1

namespace BarrierSession

def start :
    BarrierSession where
  nextSource := 0
  sourceIds := .empty
  sourceKinds := .empty
  generations := .empty
  media := .empty
  threads := []
  ending := none
  failed := false
  attached := []
  readied := []
  sent := []

/-! ## `reconcile` -/

section

variable (session : BarrierSession) (sources : List BridgeSource)

/-- The sources that a reconciliation creates again, or for the first time. -/
def recreated : List SourceKey :=
  (OuterBridge.addLinked sources)^[sources.length]
    ((sources.filter fun source =>
      decide (session.sourceKinds.find? source.key ≠ some source.kind)).map
        BridgeSource.key)

/-- The outer sources that a reconciliation destroys. -/
def isObsolete
    (key : SourceKey) : Bool :=
  decide (key ∈ session.sourceIds) &&
    (decide (key ∉ sources.map BridgeSource.key) ||
      decide (key ∈ session.recreated sources))

def removeObsolete : BarrierSession :=
  let stays (key : SourceKey) : Bool :=
    !session.isObsolete sources key ||
      decide (key ∈ sources.map BridgeSource.key)
  { session with
    media := session.media.filter fun key _ =>
      !session.isObsolete sources key
    sourceIds := session.sourceIds.filter fun key _ => stays key
    sourceKinds := session.sourceKinds.filter fun key _ => stays key }

/-- The first loop of `create_sources`: each source gets a new outer ID. -/
def requestSources
    (session : BarrierSession) :
    List BridgeSource → BarrierSession × List (BridgeSource × Nat)
  | [] => (session, [])
  | source :: rest =>
      let upstream := session.nextSource + 1
      let (requested, pending) := requestSources
        { session with
          nextSource := upstream
          sourceIds := session.sourceIds.insert source.key upstream } rest
      (requested, (source, upstream) :: pending)

/-- `SOURCE_READY`: the generation of the inner key goes up. -/
def countReady
    (session : BarrierSession)
    (source : BridgeSource) : BarrierSession :=
  { session with
    sourceKinds := session.sourceKinds.insert source.key source.kind
    generations := session.generations.insert source.key
      (min maxGeneration
        ((session.generations.find? source.key).getD 0 + 1))
    readied := source.key :: session.readied }

/-- The channel of the source is attached and gets its thread. -/
def attachChannel
    (session : BarrierSession)
    (source : BridgeSource)
    (upstream : Nat) : BarrierSession :=
  { session with
    media := session.media.insert source.key session.threads.length
    threads := session.threads ++ [⟨upstream, [], 1, true, []⟩]
    attached := upstream :: session.attached }

/-- The second loop of `create_sources` with one source. -/
def answerSource
    (session : BarrierSession)
    (source : BridgeSource)
    (upstream : Nat) :
    Creation → BarrierSession
  | .refused => { session with failed := true }
  | .cacheHit =>
      { session.countReady source with failed := !source.kind.isImage }
  | .unattached => { session.countReady source with failed := true }
  | .attached => (session.countReady source).attachChannel source upstream

/-- The second loop of `create_sources`; it ends where a source fails. -/
def answerSources
    (session : BarrierSession) :
    List (BridgeSource × Nat) → List Creation → BarrierSession
  | [], _ => session
  | _ :: _, [] => { session with failed := true }
  | (source, upstream) :: rest, creation :: creations =>
      let answered := session.answerSource source upstream creation
      if answered.failed then answered
      else answerSources answered rest creations

/-- `reconcile`, up to the creation of the sources. -/
def reconcile
    (creations : List Creation) : BarrierSession :=
  let created := sources.filter fun source =>
    decide (source.key ∈ session.recreated sources)
  let (requested, pending) := (session.removeObsolete sources).requestSources
    (OuterBridge.creationOrder created)
  requested.answerSources pending creations

end

section

variable (session : BarrierSession)

/-- `take_source_losses`, given the sources that were lost. -/
def takeSourceLosses
    (losses : List SourceKey) : BarrierSession :=
  { session with
    media := session.media.filter fun key _ => decide (key ∉ losses)
    sourceKinds := session.sourceKinds.filter fun key _ =>
      decide (key ∉ losses) }

/-! ## The queue of a writer -/

/-- A command goes to a thread that runs and has room for it. -/
def sendCommand
    (index : Nat)
    (command : WriterCommand) : Option BarrierSession :=
  match session.threads[index]? with
  | none => none
  | some thread =>
      if thread.running && decide (thread.queue.length < mediaWriterQueue) then
        some { session with
          threads := session.threads.set index
            { thread with queue := thread.queue ++ [command] } }
      else none

/-- One turn of `run_media_writer`: the sequence of the record that it wrote,
or nothing where it could not write.  It answers the call that waits for it. -/
def writerTurn
    (index : Nat)
    (outcome : Option Nat) : Option BarrierSession :=
  match session.threads[index]? with
  | none => none
  | some thread =>
      if !thread.running then none
      else
        match thread.queue with
        | [] => none
        | .write :: rest =>
            match outcome with
            | none =>
                some { session with
                  threads := session.threads.set index
                    { thread with queue := [], running := false } }
            | some sequence =>
                some { session with
                  threads := session.threads.set index
                    { thread with
                      queue := rest
                      lastRecordSequence := sequence
                      recorded := sequence :: thread.recorded } }
        | .barrier :: rest =>
            some { session with
              threads := session.threads.set index
                { thread with queue := rest }
              ending := session.ending.map fun ending =>
                if ending.thread = index ∧ ending.reply = none then
                  { ending with
                    reply := some thread.lastRecordSequence
                    recordedThen := thread.recorded }
                else ending }

/-- The thread ends, and with it what is in its queue. -/
def threadStops
    (index : Nat) : Option BarrierSession :=
  session.threads[index]?.map fun thread =>
    { session with
      threads := session.threads.set index
        { thread with queue := [], running := false } }

/-! ## `end_source` -/

def isTimed :
    BridgeSourceKind → Bool
  | .video _ => true
  | .audio _ _ => true
  | _ => false

/-- `end_source`, up to where it waits for the writer. -/
def endSource
    (source : BridgeSource)
    (epoch : Nat) : Option BarrierSession :=
  if !isTimed source.kind then none
  else
    match session.sourceIds.find? source.key,
        session.media.find? source.key with
    | some upstream, some index =>
        (session.sendCommand index .barrier).map fun asked =>
          { asked with
            ending := some ⟨source.key, upstream, epoch, index, none, []⟩ }
    | _, _ => none

end

/-- `end_source` from there on, once the writer has replied or is gone. -/
def finishEnding (session : BarrierSession) : Option BarrierSession :=
  match session.ending with
  | none => none
  | some ending =>
      match session.threads[ending.thread]? with
      | none => none
      | some thread =>
          match ending.reply with
          | none =>
              if thread.running then none
              else some { session with ending := none }
          | some finalRecordSequence =>
              match session.generations.find? ending.key with
              | none => some { session with ending := none }
              | some attachmentGeneration =>
                  some { session with
                    ending := none
                    sent :=
                      { upstream := ending.upstream
                        epoch := ending.epoch
                        barrier :=
                          if 1 < finalRecordSequence then
                            some (attachmentGeneration, finalRecordSequence)
                          else none
                        channel := thread.upstream
                        recordedThen := ending.recordedThen
                        attachedThen := session.attached.count ending.upstream
                        readiedThen := session.readied.count ending.key } ::
                        session.sent }

end BarrierSession

inductive BarrierEvent where
  | reconcile (sources : List BridgeSource) (creations : List Creation)
  /-- Anything else that makes the worker give the session up. -/
  | fail
  | takeLosses (losses : List SourceKey)
  /-- `media_chunk` hands a body to the writer of its source. -/
  | write (key : SourceKey)
  | endSource (source : BridgeSource) (epoch : Nat)
  | finishEnding
  | turn (thread : Nat) (outcome : Option Nat)
  | stop (thread : Nat)

/-- One event; nothing where it cannot happen.  The worker does nothing else
while it waits for a writer, and nothing once it gave the session up.  The
sources of a projection have different keys. -/
def barrierStep
    (session : BarrierSession) :
    BarrierEvent → Option BarrierSession
  | .turn thread outcome => session.writerTurn thread outcome
  | .stop thread => session.threadStops thread
  | .finishEnding => session.finishEnding
  | .fail => some { session with failed := true }
  | .reconcile sources creations =>
      if session.failed || session.ending.isSome ||
          !decide (sources.map BridgeSource.key).Nodup then none
      else some (session.reconcile sources creations)
  | .takeLosses losses =>
      if session.failed || session.ending.isSome then none
      else some (session.takeSourceLosses losses)
  | .write key =>
      if session.failed || session.ending.isSome then none
      else
        (session.media.find? key).bind fun index =>
          session.sendCommand index .write
  | .endSource source epoch =>
      if session.failed || session.ending.isSome then none
      else session.endSource source epoch

def barrierMachine :
    Machine BarrierSession BarrierEvent where
  initial session := session = .start
  step before event after := barrierStep before event = some after

/-! ## What the session keeps -/

namespace BarrierSession

/-- The last sequence that a thread knows is that of its last record. -/
def Recording (thread : ChannelThread) : Prop :=
  thread.lastRecordSequence = thread.recorded.head?.getD 1

/-- A call that waits asks the channel of its source. -/
structure Asks (session : BarrierSession) (ending : Ending) : Prop where
  channel : ∃ thread, session.threads[ending.thread]? = some thread ∧
    thread.upstream = ending.upstream
  attached : ending.upstream ∈ session.attached
  reply : ∀ final, ending.reply = some final →
    final = ending.recordedThen.head?.getD 1

/-- The barrier of an `EOS` is right about the last record, and about the
attachment if the inner key had one outer source. -/
def Names (eos : Eos) : Prop :=
  ∀ generation final, eos.barrier = some (generation, final) →
    eos.channel = eos.upstream ∧ eos.recordedThen.head? = some final ∧
      (generation = eos.attachedThen ↔ eos.readiedThen = 1)

/-- The channel of a key is that of its outer source, and attached. -/
def Leads (session : BarrierSession) (key : SourceKey) (index : Nat) : Prop :=
  ∃ thread, session.threads[index]? = some thread ∧
    session.sourceIds.find? key = some thread.upstream ∧
    thread.upstream ∈ session.attached

structure Sound (session : BarrierSession) : Prop where
  recording : ∀ thread ∈ session.threads, Recording thread
  fresh : ∀ upstream ∈ session.attached, upstream ≤ session.nextSource
  once : session.attached.Nodup
  counted : ∀ key, (session.generations.find? key).getD 0 =
    min maxGeneration (session.readied.count key)
  led : ∀ key index, session.media.find? key = some index →
    session.Leads key index
  asks : ∀ ending, session.ending = some ending → session.Asks ending
  sent : ∀ eos ∈ session.sent, Names eos

theorem sound_start :
    start.Sound where
  recording _ listed := by cases listed
  fresh _ listed := by cases listed
  once := List.nodup_nil
  counted key := by simp [start]
  led _ _ found := by simp [start] at found
  asks _ waits := by cases waits
  sent _ listed := by cases listed

/-! ## Threads -/

variable {index : Nat} {session after : BarrierSession}

variable {thread changed : ChannelThread}

/-- A thread that changes stays on its channel. -/
theorem exists_channel_set
    {threads : List ChannelThread}
    (found : threads[index]? = some thread)
    (same : changed.upstream = thread.upstream)
    {other : Nat}
    {there : ChannelThread}
    (isThere : threads[other]? = some there) :
    ∃ later, (threads.set index changed)[other]? = some later ∧
      later.upstream = there.upstream := by
  by_cases here : index = other
  · cases here
    cases found.symm.trans isThere
    have inside := (List.getElem?_eq_some_iff.mp found).1
    exact ⟨changed, List.getElem?_set_self inside, same⟩
  · exact ⟨there, by rw [List.getElem?_set_ne here]; exact isThere, rfl⟩

/-- What an event may do to the threads and to the call that waits. -/
theorem Sound.setThread
    (sound : session.Sound)
    (found : session.threads[index]? = some thread)
    (same : changed.upstream = thread.upstream)
    (recording : Recording changed)
    {ending : Option Ending}
    (asks : ∀ later, ending = some later → ∃ former,
      session.ending = some former ∧ later.thread = former.thread ∧
        later.upstream = former.upstream ∧
        (∀ final, later.reply = some final →
          final = later.recordedThen.head?.getD 1)) :
    Sound { session with
      threads := session.threads.set index changed
      ending := ending } where
  recording other listed := by
    obtain old | rfl := List.mem_or_eq_of_mem_set listed
    · exact sound.recording other old
    · exact recording
  fresh := sound.fresh
  once := sound.once
  counted := sound.counted
  led key place isThere := by
    obtain ⟨there, inPlace, outer, attached⟩ := sound.led key place isThere
    obtain ⟨later, laterInPlace, upstream⟩ :=
      exists_channel_set found same inPlace
    exact ⟨later, laterInPlace, upstream ▸ outer, upstream ▸ attached⟩
  asks later waits := by
    obtain ⟨former, waited, thread', upstream, reply⟩ := asks later waits
    obtain ⟨⟨there, inPlace, isUpstream⟩, attached, -⟩ :=
      sound.asks former waited
    obtain ⟨after, afterInPlace, sameUpstream⟩ :=
      exists_channel_set found same inPlace
    refine ⟨⟨after, ?_, ?_⟩, ?_, reply⟩
    · rw [thread']
      exact afterInPlace
    · rw [sameUpstream, isUpstream, upstream]
    · rw [upstream]
      exact attached
  sent := sound.sent

/-- The call that waits may go on waiting. -/
theorem Sound.stillAsks
    (sound : session.Sound) :
    ∀ later, session.ending = some later → ∃ former,
      session.ending = some former ∧ later.thread = former.thread ∧
        later.upstream = former.upstream ∧
        (∀ final, later.reply = some final →
          final = later.recordedThen.head?.getD 1) :=
  fun later waits =>
    ⟨later, waits, rfl, rfl, (sound.asks later waits).reply⟩

theorem Sound.sendCommand
    (sound : session.Sound)
    {command : WriterCommand}
    (sent : session.sendCommand index command = some after) :
    after.Sound ∧ after.ending = session.ending ∧
      after.attached = session.attached ∧
      ∀ thread, session.threads[index]? = some thread →
        ∃ later, after.threads[index]? = some later ∧
          later.upstream = thread.upstream := by
  unfold BarrierSession.sendCommand at sent
  split at sent
  · cases sent
  · rename_i thread found
    split_ifs at sent
    cases sent
    refine ⟨sound.setThread found ?_ ?_ sound.stillAsks, rfl, rfl, ?_⟩
    · rfl
    · exact sound.recording thread (List.mem_of_getElem? found)
    · intro there isThere
      refine exists_channel_set found ?_ isThere
      rfl

theorem Sound.writerTurn
    (sound : session.Sound)
    {outcome : Option Nat}
    (turned : session.writerTurn index outcome = some after) : after.Sound := by
  unfold BarrierSession.writerTurn at turned
  split at turned
  · cases turned
  · rename_i thread found
    have recording := sound.recording thread (List.mem_of_getElem? found)
    split_ifs at turned
    split at turned
    · cases turned
    · split at turned
      · cases turned
        refine sound.setThread found ?_ ?_ sound.stillAsks
        · rfl
        · exact recording
      · cases turned
        refine sound.setThread found ?_ ?_ sound.stillAsks
        · rfl
        · rfl
    · cases turned
      refine sound.setThread found ?_ ?_ ?_
      · rfl
      · exact recording
      intro later waits
      obtain ⟨former, waited, rfl⟩ := Option.map_eq_some_iff.mp waits
      split_ifs
      · refine ⟨former, waited, rfl, rfl, fun final isFinal => ?_⟩
        cases isFinal
        exact recording
      · exact ⟨former, waited, rfl, rfl, (sound.asks former waited).reply⟩

theorem Sound.threadStops
    (sound : session.Sound)
    (stopped : session.threadStops index = some after) : after.Sound := by
  obtain ⟨thread, found, rfl⟩ := Option.map_eq_some_iff.mp stopped
  refine sound.setThread found ?_ ?_ sound.stillAsks
  · rfl
  · exact sound.recording thread (List.mem_of_getElem? found)

/-! ## `end_source` -/

variable {source : BridgeSource}

theorem Sound.endSource
    (sound : session.Sound)
    {epoch : Nat}
    (ended : session.endSource source epoch = some after) : after.Sound := by
  unfold BarrierSession.endSource at ended
  split_ifs at ended
  split at ended
  · rename_i upstream index outer channel
    obtain ⟨asked, sentIt, rfl⟩ := Option.map_eq_some_iff.mp ended
    obtain ⟨soundAsked, -, attachedSame, channels⟩ := sound.sendCommand sentIt
    obtain ⟨thread, inPlace, isOuter, attached⟩ := sound.led _ _ channel
    cases outer.symm.trans isOuter
    obtain ⟨later, laterInPlace, same⟩ := channels thread inPlace
    refine ⟨soundAsked.recording, soundAsked.fresh, soundAsked.once,
      soundAsked.counted, soundAsked.led, ?_, soundAsked.sent⟩
    intro waiting waits
    cases waits
    refine ⟨⟨later, laterInPlace, same⟩, attachedSame ▸ attached, ?_⟩
    intro final impossible
    cases impossible
  · cases ended

/-- The generation of a key is one exactly when one outer source was made for
it. -/
theorem eq_one_iff_of_min
    {limit generation count : Nat}
    (bounded : 2 ≤ limit)
    (counted : generation = min limit count) : generation = 1 ↔ count = 1 := by
  omega

theorem two_le_maxGeneration :
    2 ≤ maxGeneration := Nat.le_of_ble_eq_true rfl

theorem Sound.finishEnding
    (sound : session.Sound)
    (finished : session.finishEnding = some after) : after.Sound := by
  have gaveUp : Sound { session with ending := none } :=
    ⟨sound.recording, sound.fresh, sound.once, sound.counted, sound.led,
      fun _ impossible => (Option.some_ne_none _ impossible.symm).elim,
      sound.sent⟩
  unfold BarrierSession.finishEnding at finished
  split at finished
  · cases finished
  · rename_i ending waits
    obtain ⟨⟨asked, askedThere, isUpstream⟩, attached, reply⟩ :=
      sound.asks ending waits
    split at finished
    · cases finished
    · rename_i thread found
      cases askedThere.symm.trans found
      split at finished
      · split_ifs at finished
        cases finished
        exact gaveUp
      · rename_i final replied
        split at finished
        · cases finished
          exact gaveUp
        · rename_i attachment isAttachment
          cases finished
          refine ⟨sound.recording, sound.fresh, sound.once, sound.counted,
            sound.led,
            fun _ impossible => (Option.some_ne_none _ impossible.symm).elim,
            ?_⟩
          intro eos listed
          obtain rfl | old := List.mem_cons.mp listed
          · intro generation sequence barrier
            simp only at barrier
            split_ifs at barrier with written
            cases barrier
            have isLast := reply final replied
            have counted := sound.counted ending.key
            rw [isAttachment, Option.getD_some] at counted
            have isOne : session.attached.count ending.upstream = 1 :=
              List.count_eq_one_of_mem sound.once attached
            refine ⟨isUpstream, ?_, ?_⟩
            · cases recorded : ending.recordedThen.head? with
              | none =>
                  rw [recorded, Option.getD_none] at isLast
                  omega
              | some last =>
                  rw [recorded, Option.getD_some] at isLast
                  rw [isLast]
            · simp only [isOne]
              exact eq_one_iff_of_min two_le_maxGeneration counted
          · exact sound.sent eos old

/-! ## `reconcile` -/

theorem Sound.removeObsolete
    (sound : session.Sound)
    (idle : session.ending = none)
    (sources : List BridgeSource) : (session.removeObsolete sources).Sound where
  recording := sound.recording
  fresh := sound.fresh
  once := sound.once
  counted := sound.counted
  led key index found := by
    have looked : (session.media.filter fun key _ =>
        !session.isObsolete sources key).find? key = some index := found
    rw [OrderedMap.find?_filter] at looked
    obtain ⟨was, stays⟩ := Option.filter_eq_some_iff.mp looked
    obtain ⟨thread, inPlace, outer, attached⟩ := sound.led key index was
    refine ⟨thread, inPlace, ?_, attached⟩
    have kept : ((session.sourceIds.filter fun key _ =>
        !session.isObsolete sources key ||
          decide (key ∈ sources.map BridgeSource.key)).find? key) =
        some thread.upstream := by
      rw [OrderedMap.find?_filter, outer]
      simp only [Option.filter_some, stays, Bool.true_or, if_true]
    exact kept
  asks ending waits := by
    have waited : session.ending = some ending := waits
    rw [idle] at waited
    cases waited
  sent := sound.sent

/-- The sources that are to be answered have outer IDs of their own and no
channel yet. -/
structure Pending
    (session : BarrierSession)
    (pending : List (BridgeSource × Nat)) : Prop where
  outer : ∀ entry ∈ pending,
    session.sourceIds.find? entry.1.key = some entry.2 ∧
      entry.2 ≤ session.nextSource
  unattached : ∀ entry ∈ pending,
    session.media.find? entry.1.key = none ∧ entry.2 ∉ session.attached
  keys : (pending.map fun entry => entry.1.key).Nodup
  upstreams : (pending.map Prod.snd).Nodup

/-- What requesting sources does. -/
structure Requested
    (session : BarrierSession)
    (sources : List BridgeSource)
    (after : BarrierSession)
    (pending : List (BridgeSource × Nat)) : Prop where
  media : after.media = session.media
  attached : after.attached = session.attached
  ending : after.ending = session.ending
  nextSource : session.nextSource ≤ after.nextSource
  others : ∀ key ∉ sources.map BridgeSource.key,
    after.sourceIds.find? key = session.sourceIds.find? key
  entries : ∀ entry ∈ pending,
    session.nextSource < entry.2 ∧ entry.2 ≤ after.nextSource
  sources : pending.map Prod.fst = sources

variable {sources : List BridgeSource}

/-- By induction over the sources: each gets the next ID. -/
theorem Sound.requestSources
    (sound : session.Sound)
    (keys : (sources.map BridgeSource.key).Nodup)
    (unattached : ∀ source ∈ sources,
      session.media.find? source.key = none) :
    (session.requestSources sources).1.Sound ∧
      Requested session sources (session.requestSources sources).1
        (session.requestSources sources).2 ∧
      Pending (session.requestSources sources).1
        (session.requestSources sources).2 := by
  induction sources generalizing session with
  | nil =>
      exact ⟨sound, ⟨rfl, rfl, rfl, le_rfl, fun _ _ => rfl,
        fun _ listed => absurd listed List.not_mem_nil, rfl⟩,
        ⟨fun _ listed => absurd listed List.not_mem_nil,
          fun _ listed => absurd listed List.not_mem_nil, List.nodup_nil,
          List.nodup_nil⟩⟩
  | cons source rest ih =>
      obtain ⟨other, restKeys⟩ := List.nodup_cons.mp keys
      let requested : BarrierSession :=
        { session with
          nextSource := session.nextSource + 1
          sourceIds :=
            session.sourceIds.insert source.key (session.nextSource + 1) }
      have soundRequested : requested.Sound := by
        refine ⟨sound.recording, ?_, sound.once, sound.counted, ?_, ?_,
          sound.sent⟩
        · exact fun upstream listed =>
            (sound.fresh upstream listed).trans (Nat.le_succ _)
        · intro key index found
          obtain ⟨thread, inPlace, outer, attached⟩ :=
            sound.led key index found
          refine ⟨thread, inPlace, ?_, attached⟩
          have looked := OrderedMap.find?_insert session.sourceIds source.key
            (session.nextSource + 1) key
          rw [if_neg] at looked
          · exact looked.trans outer
          · rintro rfl
            have inMedia : session.media.find? source.key = some index := found
            rw [unattached source List.mem_cons_self] at inMedia
            cases inMedia
        · intro ending waits
          obtain ⟨channel, attached, reply⟩ := sound.asks ending waits
          exact ⟨channel, attached, reply⟩
      obtain ⟨soundAfter, did, pendingAfter⟩ :=
        ih soundRequested restKeys
          (fun later listed => unattached later (List.mem_cons_of_mem _ listed))
      have bound : session.nextSource + 1 ≤
          (requested.requestSources rest).1.nextSource := did.nextSource
      refine ⟨soundAfter, ⟨did.media, did.attached, did.ending, ?_, ?_, ?_,
        ?_⟩, ⟨?_, ?_, ?_, ?_⟩⟩
      · exact (Nat.le_succ _).trans bound
      · intro key absent
        rw [List.map_cons, List.mem_cons, not_or] at absent
        refine (did.others key absent.2).trans ?_
        have looked := OrderedMap.find?_insert session.sourceIds source.key
          (session.nextSource + 1) key
        rw [if_neg absent.1] at looked
        exact looked
      · intro entry listed
        obtain rfl | later := List.mem_cons.mp listed
        · exact ⟨Nat.lt_succ_self _, bound⟩
        · have above := did.entries entry later
          exact ⟨(Nat.lt_succ_self _).trans above.1, above.2⟩
      · exact congrArg (source :: ·) did.sources
      · intro entry listed
        obtain rfl | later := List.mem_cons.mp listed
        · refine ⟨(did.others source.key other).trans ?_, bound⟩
          exact OrderedMap.find?_insert_self _ _ _
        · exact pendingAfter.outer entry later
      · intro entry listed
        obtain rfl | later := List.mem_cons.mp listed
        · refine ⟨?_, ?_⟩
          · exact (congrArg (fun media => media.find? source.key)
              did.media).trans (unattached source List.mem_cons_self)
          · intro attached
            have before : session.nextSource + 1 ∈ session.attached :=
              did.attached ▸ attached
            exact absurd (sound.fresh _ before) (Nat.not_succ_le_self _)
        · exact pendingAfter.unattached entry later
      · have samekeys : (requested.requestSources rest).2.map
            (fun entry => entry.1.key) = rest.map BridgeSource.key := by
          rw [← congrArg (List.map BridgeSource.key) did.sources, List.map_map]
          rfl
        refine List.nodup_cons.mpr ⟨?_, pendingAfter.keys⟩
        rw [samekeys]
        exact other
      · refine List.nodup_cons.mpr ⟨fun listed => ?_, pendingAfter.upstreams⟩
        obtain ⟨entry, later, same⟩ := List.mem_map.mp listed
        have above := (did.entries entry later).1
        rw [same] at above
        exact absurd above (lt_irrefl _)

theorem min_min_succ
    (limit count : Nat) :
    min limit (min limit count + 1) = min limit (count + 1) := by
  omega

theorem Sound.countReady
    (sound : session.Sound)
    (source : BridgeSource) : (session.countReady source).Sound where
  recording := sound.recording
  fresh := sound.fresh
  once := sound.once
  counted key := by
    have looked := OrderedMap.find?_insert session.generations source.key
      (min maxGeneration
        ((session.generations.find? source.key).getD 0 + 1)) key
    have counted := sound.counted key
    unfold BarrierSession.countReady
    simp only [looked]
    by_cases same : key = source.key
    · cases same
      rw [if_pos rfl, Option.getD_some, counted, min_min_succ,
        List.count_cons_self]
    · rw [if_neg same, counted, List.count_cons_of_ne (Ne.symm same)]
  led := sound.led
  asks ending waits := by
    obtain ⟨channel, attached, reply⟩ := sound.asks ending waits
    exact ⟨channel, attached, reply⟩
  sent := sound.sent

theorem Sound.attachChannel
    (sound : session.Sound)
    {upstream : Nat}
    (outer : session.sourceIds.find? source.key = some upstream)
    (known : upstream ≤ session.nextSource)
    (unattached : upstream ∉ session.attached) :
    (session.attachChannel source upstream).Sound where
  recording thread listed := by
    obtain old | new := List.mem_append.mp listed
    · exact sound.recording thread old
    · cases List.mem_singleton.mp new
      rfl
  fresh other listed := by
    obtain rfl | old := List.mem_cons.mp listed
    · exact known
    · exact sound.fresh other old
  once := List.nodup_cons.mpr ⟨unattached, sound.once⟩
  counted := sound.counted
  led key index found := by
    have looked := OrderedMap.find?_insert session.media source.key
      session.threads.length key
    have inMedia : (session.media.insert source.key
        session.threads.length).find? key = some index := found
    rw [looked] at inMedia
    split_ifs at inMedia with same
    · cases inMedia
      cases same
      refine ⟨⟨upstream, [], 1, true, []⟩, ?_, outer, List.mem_cons_self⟩
      exact List.getElem?_concat_length
    · obtain ⟨thread, inPlace, isOuter, attached⟩ := sound.led key index inMedia
      refine ⟨thread, ?_, isOuter, List.mem_cons_of_mem _ attached⟩
      have inside := (List.getElem?_eq_some_iff.mp inPlace).1
      exact (List.getElem?_append_left inside).trans inPlace
  asks ending waits := by
    obtain ⟨⟨thread, inPlace, isUpstream⟩, attached, reply⟩ :=
      sound.asks ending waits
    have inside := (List.getElem?_eq_some_iff.mp inPlace).1
    exact ⟨⟨thread, (List.getElem?_append_left inside).trans inPlace,
      isUpstream⟩, List.mem_cons_of_mem _ attached, reply⟩
  sent := sound.sent

variable {entry : BridgeSource × Nat}

/-- The sources after the first are still to be answered. -/
theorem Pending.rest
    {rest : List (BridgeSource × Nat)}
    (pending : session.Pending (entry :: rest))
    (sourceIds : after.sourceIds = session.sourceIds)
    (nextSource : after.nextSource = session.nextSource)
    (media : ∀ key, key ≠ entry.1.key →
      after.media.find? key = session.media.find? key)
    (attached : ∀ upstream, upstream ≠ entry.2 →
      upstream ∉ session.attached → upstream ∉ after.attached) :
    after.Pending rest := by
  obtain ⟨otherKey, keys⟩ := List.nodup_cons.mp pending.keys
  obtain ⟨otherUpstream, upstreams⟩ := List.nodup_cons.mp pending.upstreams
  refine ⟨?_, ?_, keys, upstreams⟩
  · intro later listed
    rw [sourceIds, nextSource]
    exact pending.outer later (List.mem_cons_of_mem _ listed)
  · intro later listed
    obtain ⟨free, unattached⟩ :=
      pending.unattached later (List.mem_cons_of_mem _ listed)
    refine ⟨?_, attached later.2 ?_ unattached⟩
    · rw [media, free]
      intro same
      exact otherKey (List.mem_map.mpr ⟨later, listed, same⟩)
    · intro same
      exact otherUpstream (List.mem_map.mpr ⟨later, listed, same⟩)

section

variable (sound : session.Sound)
include sound

theorem Sound.setFailed
    (failed : Bool) : Sound { session with failed := failed } where
  recording := sound.recording
  fresh := sound.fresh
  once := sound.once
  counted := sound.counted
  led := sound.led
  asks ending waits := by
    obtain ⟨channel, attached, reply⟩ := sound.asks ending waits
    exact ⟨channel, attached, reply⟩
  sent := sound.sent

theorem Sound.answerSource
    {rest : List (BridgeSource × Nat)}
    (pending : session.Pending (entry :: rest))
    (creation : Creation) :
    (session.answerSource entry.1 entry.2 creation).Sound ∧
      (session.answerSource entry.1 entry.2 creation).Pending rest := by
  cases creation with
  | refused =>
      exact ⟨sound.setFailed true,
        pending.rest rfl rfl (fun _ _ => rfl) (fun _ _ => id)⟩
  | cacheHit =>
      exact ⟨(sound.countReady entry.1).setFailed _,
        pending.rest rfl rfl (fun _ _ => rfl) (fun _ _ => id)⟩
  | unattached =>
      exact ⟨(sound.countReady entry.1).setFailed true,
        pending.rest rfl rfl (fun _ _ => rfl) (fun _ _ => id)⟩
  | attached =>
      obtain ⟨outer, known⟩ := pending.outer entry List.mem_cons_self
      obtain ⟨-, unattached⟩ := pending.unattached entry List.mem_cons_self
      refine ⟨(sound.countReady entry.1).attachChannel outer known unattached,
        pending.rest rfl rfl ?_ ?_⟩
      · intro key differs
        have looked := OrderedMap.find?_insert session.media entry.1.key
          session.threads.length key
        rw [if_neg differs] at looked
        exact looked
      · intro upstream differs absent listed
        obtain same | old := List.mem_cons.mp listed
        · exact differs same
        · exact absent old

/-- By induction over the sources that are answered. -/
theorem Sound.answerSources
    {pending : List (BridgeSource × Nat)}
    (isPending : session.Pending pending)
    (creations : List Creation) :
    (session.answerSources pending creations).Sound := by
  induction pending generalizing session creations with
  | nil => exact sound
  | cons entry rest ih =>
      cases creations with
      | nil => exact sound.setFailed true
      | cons creation creations =>
          obtain ⟨soundAnswered, pendingRest⟩ :=
            sound.answerSource isPending creation
          unfold BarrierSession.answerSources
          simp only
          split
          · exact soundAnswered
          · exact ih soundAnswered pendingRest creations

theorem Sound.reconcile
    (idle : session.ending = none)
    (keys : (sources.map BridgeSource.key).Nodup)
    (creations : List Creation) :
    (session.reconcile sources creations).Sound := by
  let created := sources.filter fun source =>
    decide (source.key ∈ session.recreated sources)
  have soundRemoved := sound.removeObsolete idle sources
  have same : (OuterBridge.creationOrder created).Perm created :=
    List.mergeSort_perm _ _
  have createdKeys : ((OuterBridge.creationOrder created).map
      BridgeSource.key).Nodup := by
    rw [(same.map BridgeSource.key).nodup_iff]
    exact keys.sublist (List.filter_sublist.map _)
  have unattached : ∀ source ∈ OuterBridge.creationOrder created,
      (session.removeObsolete sources).media.find? source.key = none := by
    intro source listed
    have isCreated := (List.mem_filter.mp (same.mem_iff.mp listed)).2
    have looked := OrderedMap.find?_filter
      (fun key (_ : Nat) => !session.isObsolete sources key) session.media
      source.key
    refine looked.trans ?_
    cases channel : session.media.find? source.key with
    | none => rfl
    | some index =>
        obtain ⟨thread, -, outer, -⟩ := sound.led source.key index channel
        have obsolete : session.isObsolete sources source.key = true := by
          unfold isObsolete
          rw [decide_eq_true_eq] at isCreated
          simp [OrderedMap.mem_of_find?_eq_some outer, isCreated]
        rw [Option.filter_some, obsolete]
        rfl
  obtain ⟨soundRequested, -, pending⟩ :=
    soundRemoved.requestSources createdKeys unattached
  exact soundRequested.answerSources pending creations

theorem Sound.takeSourceLosses
    (losses : List SourceKey) : (session.takeSourceLosses losses).Sound where
  recording := sound.recording
  fresh := sound.fresh
  once := sound.once
  counted := sound.counted
  led key index found := by
    have looked : (session.media.filter fun key _ =>
        decide (key ∉ losses)).find? key = some index := found
    rw [OrderedMap.find?_filter] at looked
    exact sound.led key index (Option.filter_eq_some_iff.mp looked).1
  asks ending waits := by
    obtain ⟨channel, attached, reply⟩ := sound.asks ending waits
    exact ⟨channel, attached, reply⟩
  sent := sound.sent

end

theorem Sound.barrierStep
    {before after : BarrierSession}
    {event : BarrierEvent}
    (sound : before.Sound)
    (stepped : barrierStep before event = some after) : after.Sound := by
  cases event with
  | turn thread outcome => exact sound.writerTurn stepped
  | stop thread => exact sound.threadStops stepped
  | finishEnding => exact sound.finishEnding stepped
  | fail =>
      cases stepped
      exact sound.setFailed true
  | reconcile sources creations =>
      simp only [Bridge.barrierStep] at stepped
      split_ifs at stepped with refused
      cases stepped
      simp only [Bool.or_eq_true, not_or, Bool.not_eq_true,
        Bool.not_eq_true', decide_eq_false_iff_not, not_not] at refused
      exact sound.reconcile (Option.isSome_eq_false_iff.mp refused.1.2 |>
        Option.isNone_iff_eq_none.mp) refused.2 creations
  | takeLosses losses =>
      simp only [Bridge.barrierStep] at stepped
      split_ifs at stepped
      cases stepped
      exact sound.takeSourceLosses losses
  | write key =>
      simp only [Bridge.barrierStep] at stepped
      split_ifs at stepped
      obtain ⟨index, -, sentIt⟩ := Option.bind_eq_some_iff.mp stepped
      exact (sound.sendCommand sentIt).1
  | endSource source epoch =>
      simp only [Bridge.barrierStep] at stepped
      split_ifs at stepped
      exact sound.endSource stepped

end BarrierSession

/-! ## Every run -/

/-- The barrier of an `EOS` asks the channel of its outer source, names the
last record written there, and names its attachment exactly if the inner key
had no other outer source in the session. -/
theorem eos_barrier_names_channel_iff
    {session : BarrierSession}
    (reached : barrierMachine.Reachable (fun _ _ => True) session)
    {eos : Eos}
    (sent : eos ∈ session.sent)
    {generation final : Nat}
    (barrier : eos.barrier = some (generation, final)) :
    eos.channel = eos.upstream ∧ eos.recordedThen.head? = some final ∧
      (generation = eos.attachedThen ↔ eos.readiedThen = 1) := by
  have sound : session.Sound := by
    refine reached.invariant ?_ ?_
    · rintro start rfl
      exact BarrierSession.sound_start
    · exact fun _ _ _ sound _ stepped => sound.barrierStep stepped
  exact sound.sent eos sent generation final barrier

/-! ## Two runs -/

section Examples

open BarrierSession

/-- A video source with some configuration. -/
def videoOf (config : Nat) : BridgeSource :=
  ⟨⟨1, 2⟩, .video config, true⟩

/-- A source is created, three packets are written, and it ends. -/
def writtenAndEnded : List BarrierEvent :=
  [.reconcile [videoOf 1] [.attached], .write ⟨1, 2⟩, .write ⟨1, 2⟩,
    .turn 0 (some 2), .write ⟨1, 2⟩, .endSource (videoOf 1) 1,
    .turn 0 (some 3), .turn 0 (some 4), .turn 0 none, .finishEnding]

def afterWrittenAndEnded : BarrierSession :=
  (Machine.follow barrierStep (fun _ _ => true) start writtenAndEnded).get
    (by decide +kernel)

/-- The barrier names the third packet and the first attachment. -/
theorem eos_barrier_names_channel_iff_written :
    (∃ eos ∈ afterWrittenAndEnded.sent, eos.barrier = some (1, 4)) ∧
      ∀ eos ∈ afterWrittenAndEnded.sent, eos.barrier = some (1, 4) →
        eos.channel = eos.upstream ∧ eos.recordedThen.head? = some 4 ∧
          (1 = eos.attachedThen ↔ eos.readiedThen = 1) := by
  have reached : barrierMachine.Reachable (fun _ _ => True)
      afterWrittenAndEnded :=
    Machine.Reachable.follow (fun _ _ _ stepped => stepped)
      (fun _ _ _ => trivial) (.initial rfl) (Option.some_get _).symm
  exact ⟨by decide +kernel, fun eos sent barrier =>
    eos_barrier_names_channel_iff reached sent barrier⟩

/-- The source gets another configuration, one packet is written, and it
ends. -/
def recreatedAndEnded : List BarrierEvent :=
  [.reconcile [videoOf 1] [.attached], .reconcile [videoOf 2] [.attached],
    .write ⟨1, 2⟩, .turn 1 (some 2), .endSource (videoOf 2) 1, .turn 1 none,
    .finishEnding]

def afterRecreatedAndEnded : BarrierSession :=
  (Machine.follow barrierStep (fun _ _ => true) start recreatedAndEnded).get
    (by decide +kernel)

/-- One channel was attached to the outer source, and the barrier names a
second attachment. -/
theorem recreated_source_names_second_attachment :
    ¬ ∀ session : BarrierSession,
      barrierMachine.Reachable (fun _ _ => True) session →
        ∀ eos ∈ session.sent, ∀ generation final,
          eos.barrier = some (generation, final) →
            generation = eos.attachedThen ∧
              eos.recordedThen.head? = some final := by
  intro always
  have reached : barrierMachine.Reachable (fun _ _ => True)
      afterRecreatedAndEnded :=
    Machine.Reachable.follow (fun _ _ _ stepped => stepped)
      (fun _ _ _ => trivial) (.initial rfl) (Option.some_get _).symm
  have sent : (⟨2, 1, some (2, 2), 2, [2], 1, 2⟩ : Eos) ∈
      afterRecreatedAndEnded.sent := by
    decide +kernel
  exact absurd (always _ reached _ sent 2 2 rfl).1 (by decide)

end Examples

end Bridge
end Vvmux
