import Vvmux.Rendering.Output

/-!
# Differences on their own base

As long as nothing that is half on the screen is thrown away, and nothing but
a full frame follows an overflow, the writer writes the stream as it was sent
from some full frame on.
-/

namespace Vvmux

open Library

namespace Rendering

/-! ## The stream -/

/-- What the session sends: serials count on, frames do not overlap, and
between the base of a chunk and the chunk itself no full frame starts. -/
structure Streamed (stream : List Chunk) (lastStart : Nat) : Prop where
  serial : ∀ (place : Nat) (chunk : Chunk), stream[place]? = some chunk →
    chunk.serial = place ∧ chunk.start ≤ place ∧ chunk.base ≤ chunk.start
  between : ∀ (place : Nat) (chunk : Chunk), stream[place]? = some chunk →
    ∀ other, chunk.base < other → other ≤ place →
      ∀ between, stream[other]? = some between → between.full = false
  followed : ∀ (place : Nat) (chunk next : Chunk),
    stream[place]? = some chunk → stream[place + 1]? = some next →
    next.full = true → chunk.last = true
  ended : ∀ chunk, stream[stream.length - 1]? = some chunk →
    chunk.last = true
  lastFrame : lastStart ≤ stream.length ∧
    ∀ (place : Nat) (chunk : Chunk), stream[place]? = some chunk →
      lastStart < place → chunk.full = false

theorem getElem?_chunksFrom
    (frameId start base : Nat)
    (incremental : Bool)
    (serial : Nat)
    (lengths : List Nat)
    (index : Nat) :
    (OutputState.chunksFrom frameId start base incremental serial
      lengths)[index]? =
      lengths[index]?.map fun length =>
        { frameId := frameId
          full := !incremental && decide (serial + index = start)
          last := decide (index + 1 = lengths.length)
          length := length
          serial := serial + index
          start := start
          base := base
          incremental := incremental } := by
  induction lengths generalizing serial index with
  | nil => rfl
  | cons length rest ih =>
      cases index with
      | zero =>
          cases rest with
          | nil => rfl
          | cons next others => simp [OutputState.chunksFrom]
      | succ index =>
          rw [OutputState.chunksFrom, List.getElem?_cons_succ,
            List.getElem?_cons_succ, ih, List.length_cons]
          have next : serial + 1 + index = serial + (index + 1) := by omega
          have last : decide (index + 1 + 1 = rest.length + 1) =
              decide (index + 1 = rest.length) :=
            decide_eq_decide.mpr (by omega)
          rw [next, last]

variable {stream : List Chunk}

/-- A chunk of the stream after a frame was sent is an old one or one of the
frame. -/
theorem getElem?_sendFrame
    {frameId base : Nat}
    {incremental : Bool}
    {lengths : List Nat}
    {place : Nat}
    {chunk : Chunk}
    (here : (stream ++ OutputState.chunksFrom frameId stream.length base
      incremental stream.length lengths)[place]? = some chunk) :
    (place < stream.length ∧ stream[place]? = some chunk) ∨
      (stream.length ≤ place ∧ chunk.serial = place ∧
        chunk.start = stream.length ∧ chunk.base = base ∧
        chunk.incremental = incremental ∧
        chunk.full = (!incremental && decide (place = stream.length)) ∧
        chunk.last = decide
          (place + 1 = stream.length + lengths.length)) := by
  rw [List.getElem?_append] at here
  split at here
  · rename_i old
    exact .inl ⟨old, here⟩
  · rename_i new
    have new := Nat.le_of_not_lt new
    rw [getElem?_chunksFrom] at here
    obtain ⟨length, -, same⟩ := Option.map_eq_some_iff.mp here
    have whole : stream.length + (place - stream.length) = place := by omega
    rw [← same]
    refine .inr ⟨new, whole, rfl, rfl, rfl, ?_, ?_⟩
    · rw [whole]
    · refine decide_eq_decide.mpr ?_
      omega

/-- Sending a frame keeps the stream well formed. -/
theorem Streamed.send
    {lastStart : Nat}
    (streamed : Streamed stream lastStart)
    (frameId : Nat)
    (full : Bool)
    (first : Nat)
    (rest : List Nat) :
    Streamed
      (stream ++ OutputState.chunksFrom frameId stream.length
        (if full then stream.length else lastStart) (!full) stream.length
        (first :: rest))
      stream.length where
  serial := by
    intro place chunk here
    rcases getElem?_sendFrame here with ⟨-, old⟩ | ⟨new, serial, start, base, -⟩
    · exact streamed.serial place chunk old
    · rw [start, base]
      refine ⟨serial, new, ?_⟩
      split
      · exact le_refl _
      · exact streamed.lastFrame.1
  between := by
    intro place chunk here other after upTo between there
    rcases getElem?_sendFrame here with
      ⟨inside, old⟩ | ⟨new, -, -, base, -⟩
    · rcases getElem?_sendFrame there with ⟨-, earlier⟩ | ⟨late, -⟩
      · exact streamed.between place chunk old other after upTo between earlier
      · omega
    · rw [base] at after
      rcases getElem?_sendFrame there with
        ⟨inside, earlier⟩ | ⟨late, -, -, -, -, full', -⟩
      · cases full with
        | true =>
            simp only [if_true] at after
            omega
        | false =>
            exact streamed.lastFrame.2 other between earlier after
      · rw [full']
        cases full with
        | true =>
            simp only [if_true] at after
            have differs : ¬ other = stream.length := by omega
            simp [differs]
        | false => rfl
  followed := by
    intro place chunk next here there isFull
    rcases getElem?_sendFrame there with
      ⟨inside, old⟩ | ⟨new, -, -, -, -, nextFull, -⟩
    · rcases getElem?_sendFrame here with ⟨-, before⟩ | ⟨late, -⟩
      · exact streamed.followed place chunk next before old isFull
      · omega
    · rw [isFull] at nextFull
      have starts : place + 1 = stream.length := by
        have parts := (Bool.and_eq_true _ _).mp nextFull.symm
        exact of_decide_eq_true parts.2
      rcases getElem?_sendFrame here with ⟨-, before⟩ | ⟨late, -⟩
      · refine streamed.ended chunk ?_
        rw [← starts, Nat.add_sub_cancel]
        exact before
      · omega
  ended := by
    intro chunk here
    have long : (OutputState.chunksFrom frameId stream.length
        (if full then stream.length else lastStart) (!full) stream.length
        (first :: rest)).length = (first :: rest).length := by
      have lengths : ∀ (serial : Nat) (lengths : List Nat),
          (OutputState.chunksFrom frameId stream.length
            (if full then stream.length else lastStart) (!full) serial
            lengths).length = lengths.length := by
        intro serial lengths
        induction lengths generalizing serial with
        | nil => rfl
        | cons length others ih =>
            rw [OutputState.chunksFrom, List.length_cons, List.length_cons, ih]
      exact lengths _ _
    rw [List.length_append, long, List.length_cons] at here
    rcases getElem?_sendFrame here with ⟨inside, -⟩ | ⟨-, -, -, -, -, -, last⟩
    · omega
    · rw [last]
      refine decide_eq_true ?_
      rw [List.length_cons]
      omega
  lastFrame := by
    refine ⟨by rw [List.length_append]; omega, fun place chunk here later => ?_⟩
    rcases getElem?_sendFrame here with
      ⟨inside, -⟩ | ⟨-, -, -, -, -, isFull, -⟩
    · omega
    · rw [isFull]
      have other : ¬ place = stream.length := by omega
      simp [other]

/-! ## The log -/

/-- The chunk that was written last, unless the queue overflowed since. -/
def latest :
    List LogEntry → Option Chunk
  | .wrote chunk :: _ => some chunk
  | _ => none

/-- Whether an incremental frame is on the screen in part. -/
def unfinished :
    Option Chunk → Bool
  | some chunk => chunk.incremental && !chunk.last
  | none => false

/-- What may come after some of the log. -/
def Fits
    (earlier : List LogEntry) :
    LogEntry → Prop
  | .overflowed => unfinished (latest earlier) = false
  | .wrote chunk =>
      (chunk.full = true ∧ unfinished (latest earlier) = false) ∨
        ∃ before, latest earlier = some before ∧
          before.serial + 1 = chunk.serial

/-- Every entry fits what was there before it. -/
def Sound :
    List LogEntry → Prop
  | [] => True
  | entry :: earlier => Fits earlier entry ∧ Sound earlier

theorem Sound.of_append
    {later earlier : List LogEntry}
    (sound : Sound (later ++ earlier)) : Sound earlier := by
  induction later with
  | nil => exact sound
  | cons entry rest ih => exact ih sound.2

/-- All that was written comes from the stream. -/
def FromStream (stream : List Chunk) (log : List LogEntry) : Prop :=
  ∀ chunk, .wrote chunk ∈ log → stream[chunk.serial]? = some chunk

/-- Back to the last place where a full frame may have started, the chunks
were written one after the other.  By induction over the way back. -/
theorem written_back
    {log : List LogEntry}
    (fromStream : FromStream stream log)
    {chunk : Chunk}
    {earlier : List LogEntry}
    (same : log = .wrote chunk :: earlier)
    (sound : Sound log)
    {low : Nat}
    (plain : ∀ other, low < other → other ≤ chunk.serial →
      ∀ between, stream[other]? = some between → between.full = false)
    (back : Nat)
    (within : low + back ≤ chunk.serial) :
    ∃ written, log[back]? = some (.wrote written) ∧
      stream[chunk.serial - back]? = some written ∧
      written.serial = chunk.serial - back := by
  induction back with
  | zero =>
      have here := fromStream chunk (same ▸ List.mem_cons_self)
      exact ⟨chunk, by rw [same]; rfl, by rw [Nat.sub_zero]; exact here, rfl⟩
  | succ back ih =>
      obtain ⟨written, there, streamed, serial⟩ :=
        ih (by omega)
      have notFull := plain (chunk.serial - back) (by omega) (by omega) written
        streamed
      obtain ⟨inside, isWritten⟩ := List.getElem?_eq_some_iff.mp there
      have split : log.take back ++ (.wrote written :: log.drop (back + 1)) =
          log := by
        rw [← isWritten, List.getElem_cons_drop, List.take_append_drop]
      have upTo : Sound (.wrote written :: log.drop (back + 1)) :=
        Sound.of_append (split.symm ▸ sound)
      have fits := upTo.1
      rcases fits with ⟨full, -⟩ | ⟨before, last, follows⟩
      · rw [notFull] at full
        cases full
      · have entry : (log.drop (back + 1))[0]? = some (.wrote before) := by
          unfold latest at last
          split at last
          · rename_i found rest equal
            cases last
            rw [equal]
            rfl
          · cases last
        rw [List.getElem?_drop, Nat.add_zero] at entry
        have serial' : before.serial = chunk.serial - (back + 1) := by omega
        refine ⟨before, entry, ?_, serial'⟩
        rw [← serial']
        exact fromStream before (List.mem_of_getElem? entry)

/-! ## What is on its way -/

namespace OutputState

/-- The chunk that is being written, or else the one written last. -/
def previous (state : OutputState) : Option Chunk :=
  match state.hand with
  | some (.frame chunk) => some chunk
  | _ => latest state.log

/-- The chunk in the hand of the writer. -/
def handChunk (state : OutputState) : Option Chunk :=
  state.hand.bind OutputJob.chunk?

/-- The chunks in the queue. -/
def queued (state : OutputState) : List Chunk :=
  state.jobs.filterMap OutputJob.chunk?

/-- The bytes of the control jobs in the queue. -/
def controlBytes (state : OutputState) : Nat :=
  ((state.jobs.filter OutputJob.isControl).map OutputJob.length).sum

/-- What is queued and what is on the connection is the rest of the stream,
and it goes on where the writer is or starts with a full frame. -/
def Flows (state : OutputState) : Prop :=
  ∃ place ≤ state.stream.length,
    state.queued ++ state.incoming = state.stream.drop place ∧
      ((∃ before, state.previous = some before ∧
          before.serial + 1 = place) ∨
        unfinished state.previous = false ∧
          ∃ chunk, state.stream[place]? = some chunk ∧ chunk.full = true)

/-- After an overflow nothing is queued or in the hand of the writer. -/
def Drained (state : OutputState) : Prop :=
  state.queued = [] ∧ state.handChunk = none ∧
    ∃ place ≤ state.stream.length,
      state.incoming = state.stream.drop place

/-- All chunks of the frame of an acknowledged chunk were written. -/
def Covers (state : OutputState) (chunk : Chunk) : Prop :=
  chunk.last = true ∧ ∀ place, chunk.start ≤ place → place ≤ chunk.serial →
    ∃ written, state.stream[place]? = some written ∧
      .wrote written ∈ state.log

structure Kept (state : OutputState) : Prop where
  streamed : Streamed state.stream state.lastStart
  fromStream : FromStream state.stream state.log
  hand : ∀ chunk, state.hand = some (.frame chunk) →
    state.stream[chunk.serial]? = some chunk ∧
      Fits state.log (.wrote chunk)
  writing : state.hand.isSome = true → state.writerGone = false
  flows : state.writerGone = false → state.broken = false → state.Flows
  drained : state.writerGone = false → state.broken = true → state.Drained
  sound : Sound state.log
  counted : state.bytes = (state.jobs.map OutputJob.length).sum
  acknowledged : ∀ chunk ∈ state.acknowledged, state.Covers chunk

/-- A chunk that is received throws away nothing that is half on the screen
and no control bytes, and after an overflow it starts a full frame. -/
def Clean
    (state : OutputState) :
    OutputEvent → Prop
  | .receive => ∀ chunk rest, state.incoming = chunk :: rest →
      (chunk.full = true →
        state.controlBytes = 0 ∧ unfinished state.previous = false) ∧
      (chunk.full = false → state.broken = false) ∧
      (outputQueueBytes <
          (if chunk.full then 0 else state.bytes) + chunk.length →
        state.handChunk = none ∧ unfinished state.previous = false)
  | _ => True

variable {chunk : Chunk} {state : OutputState}

theorem getElem?_append_some
    {stream more : List Chunk}
    {place : Nat}
    (here : stream[place]? = some chunk) :
    (stream ++ more)[place]? = some chunk := by
  rw [List.getElem?_append_left (List.getElem?_eq_some_iff.mp here).1, here]

theorem kept_start :
    Kept .start where
  streamed :=
    { serial := fun _ _ here => nomatch here
      between := fun _ _ here => nomatch here
      followed := fun _ _ _ here => nomatch here
      ended := fun _ here => nomatch here
      lastFrame := ⟨le_refl _, fun _ _ here => nomatch here⟩ }
  fromStream := fun _ here => nomatch here
  hand := fun _ here => nomatch here
  writing := fun here => nomatch here
  flows := fun _ whole => nomatch whole
  drained := fun _ _ => ⟨rfl, rfl, 0, le_refl _, rfl⟩
  sound := trivial
  counted := rfl
  acknowledged := fun _ here => nomatch here

section

variable (kept : Kept state)
include kept

/-- The session sends a frame. -/
theorem Kept.send
    (full : Bool)
    (first : Nat)
    (rest : List Nat) : Kept (state.sendFrame full first rest) where
  streamed := kept.streamed.send (state.frameId + 1) full first rest
  fromStream := fun chunk written =>
    getElem?_append_some (kept.fromStream chunk written)
  hand := fun chunk held =>
    ⟨getElem?_append_some (kept.hand chunk held).1, (kept.hand chunk held).2⟩
  writing := kept.writing
  flows := by
    intro runs whole
    obtain ⟨place, inside, flow, goesOn⟩ := kept.flows runs whole
    refine ⟨place, ?_, ?_, ?_⟩
    · exact inside.trans (by simp [sendFrame])
    · show state.queued ++ (state.incoming ++ _) = _
      rw [← List.append_assoc, flow]
      exact (List.drop_append_of_le_length inside).symm
    · rcases goesOn with before | ⟨finished, chunk, here, isFull⟩
      · exact .inl before
      · exact .inr ⟨finished, chunk, getElem?_append_some here, isFull⟩
  drained := by
    intro runs broken
    obtain ⟨empty, nothing, place, inside, flow⟩ := kept.drained runs broken
    refine ⟨empty, nothing, place, inside.trans (by simp [sendFrame]), ?_⟩
    show state.incoming ++ _ = _
    rw [flow]
    exact (List.drop_append_of_le_length inside).symm
  sound := kept.sound
  counted := kept.counted
  acknowledged := by
    intro chunk sent
    obtain ⟨last, covered⟩ := kept.acknowledged chunk sent
    refine ⟨last, fun place low high => ?_⟩
    obtain ⟨written, here, logged⟩ := covered place low high
    exact ⟨written, getElem?_append_some here, logged⟩

/-- Something that is no frame is queued. -/
theorem Kept.control (length : Nat) : Kept (state.enqueueControl length) := by
  have queued : (state.enqueueControl length).queued = state.queued := by
    unfold OutputState.queued enqueueControl
    rw [List.filterMap_append]
    exact List.append_nil _
  exact
    { streamed := kept.streamed
      fromStream := kept.fromStream
      hand := kept.hand
      writing := kept.writing
      flows := by
        intro runs whole
        obtain ⟨place, inside, flow, goesOn⟩ := kept.flows runs whole
        exact ⟨place, inside, by rw [queued]; exact flow, goesOn⟩
      drained := by
        intro runs broken
        obtain ⟨empty, rest⟩ := kept.drained runs broken
        exact ⟨queued.trans empty, rest⟩
      sound := kept.sound
      counted := by
        show state.bytes + length = _
        rw [kept.counted]
        simp [enqueueControl, OutputJob.length]
      acknowledged := kept.acknowledged }

/-- What is on the connection and in the queue, without the chunk that is
received. -/
theorem Kept.rest
    (runs : state.writerGone = false)
    {rest : List Chunk}
    (incoming : state.incoming = chunk :: rest) :
    ∃ place, place < state.stream.length ∧
      state.stream[place]? = some chunk ∧
      rest = state.stream.drop (place + 1) ∧
      chunk :: rest = state.stream.drop place := by
  have suffix : ∃ place, chunk :: rest = state.stream.drop place := by
    cases broken : state.broken with
    | false =>
        obtain ⟨place, -, flow, -⟩ := kept.flows runs broken
        refine ⟨place + state.queued.length, ?_⟩
        rw [← List.drop_drop, ← flow, incoming, List.drop_left]
    | true =>
        obtain ⟨-, -, place, -, flow⟩ := kept.drained runs broken
        exact ⟨place, incoming ▸ flow⟩
  obtain ⟨place, flow⟩ := suffix
  have here : state.stream[place]? = some chunk := by
    have first : (state.stream.drop place)[0]? = some chunk := by
      rw [← flow]
      rfl
    rwa [List.getElem?_drop, Nat.add_zero] at first
  refine ⟨place, (List.getElem?_eq_some_iff.mp here).1, here, ?_, flow⟩
  rw [← List.drop_drop, ← flow]
  rfl

/-- A chunk does not fit in: all that is queued is dropped. -/
theorem Kept.overflow
    {rest : List Chunk}
    (incoming : state.incoming = chunk :: rest)
    (clean : state.handChunk = none ∧ unfinished state.previous = false) :
    Kept
      { state with
        incoming := rest
        jobs := []
        bytes := 0
        resyncs := state.resyncs + 1
        log := .overflowed :: state.log
        broken := true } where
  streamed := kept.streamed
  fromStream := by
    intro other logged
    rcases List.mem_cons.mp logged with never | earlier
    · cases never
    · exact kept.fromStream other earlier
  hand := by
    intro other held
    have some : state.handChunk = some other := by
      rw [handChunk, show state.hand = some (.frame other) from held]
      rfl
    rw [clean.1] at some
    cases some
  writing := kept.writing
  flows := fun _ whole => nomatch whole
  drained := by
    intro runs _
    obtain ⟨place, inside, -, flow, -⟩ := kept.rest runs incoming
    exact ⟨rfl, clean.1, place + 1, inside, flow⟩
  sound := by
    refine ⟨?_, kept.sound⟩
    have same : state.previous = latest state.log := by
      unfold previous
      split
      · rename_i other held
        have some : state.handChunk = some other := by
          rw [handChunk, held]
          rfl
        rw [clean.1] at some
        cases some
      · rfl
    show unfinished (latest state.log) = false
    rw [← same]
    exact clean.2
  counted := rfl
  acknowledged := by
    intro other sent
    obtain ⟨last, covered⟩ := kept.acknowledged other sent
    refine ⟨last, fun place low high => ?_⟩
    obtain ⟨written, here, logged⟩ := covered place low high
    exact ⟨written, here, List.mem_cons_of_mem _ logged⟩

/-- A full frame starts: the chunks before it are dropped. -/
theorem Kept.restart
    {rest : List Chunk}
    (incoming : state.incoming = chunk :: rest)
    (full : chunk.full = true)
    (clean : state.controlBytes = 0 ∧ unfinished state.previous = false) :
    Kept
      { state with
        incoming := rest
        jobs := state.jobs.filter OutputJob.isControl ++ [.frame chunk]
        bytes := chunk.length
        broken := false } where
  streamed := kept.streamed
  fromStream := kept.fromStream
  hand := kept.hand
  writing := kept.writing
  flows := by
    intro runs _
    obtain ⟨place, inside, here, -, flow⟩ := kept.rest runs incoming
    refine ⟨place, inside.le, ?_, .inr ⟨clean.2, chunk, here, full⟩⟩
    have controls : (state.jobs.filter OutputJob.isControl).filterMap
        OutputJob.chunk? = [] := by
      rw [List.filterMap_eq_nil_iff]
      intro job listed
      have control := (List.mem_filter.mp listed).2
      cases job with
      | frame other => cases control
      | control length => rfl
    show (state.jobs.filter OutputJob.isControl ++
      [OutputJob.frame chunk]).filterMap OutputJob.chunk? ++ rest = _
    rw [List.filterMap_append, controls]
    exact flow
  drained := fun _ broken => nomatch broken
  sound := kept.sound
  counted := by
    have controls := clean.1
    unfold controlBytes at controls
    simp [controls, OutputJob.length]
  acknowledged := kept.acknowledged

/-- A chunk that goes on with its frame or with the stream is queued. -/
theorem Kept.goOn
    {rest : List Chunk}
    (incoming : state.incoming = chunk :: rest)
    (whole : state.broken = false) :
    Kept
      { state with
        incoming := rest
        jobs := state.jobs ++ [.frame chunk]
        bytes := state.bytes + chunk.length } where
  streamed := kept.streamed
  fromStream := kept.fromStream
  hand := kept.hand
  writing := kept.writing
  flows := by
    intro runs _
    obtain ⟨place, inside, flow, goesOn⟩ := kept.flows runs whole
    refine ⟨place, inside, ?_, goesOn⟩
    show (state.jobs ++ [OutputJob.frame chunk]).filterMap OutputJob.chunk? ++
      rest = _
    rw [← flow, incoming, List.filterMap_append, List.append_assoc]
    rfl
  drained := by
    intro runs broken
    rw [show state.broken = true from broken] at whole
    cases whole
  sound := kept.sound
  counted := by
    show state.bytes + chunk.length = _
    rw [kept.counted]
    simp [OutputJob.length]
  acknowledged := kept.acknowledged

/-- The client receives a chunk. -/
theorem Kept.receive
    {rest : List Chunk}
    (incoming : state.incoming = chunk :: rest)
    (clean : Clean state .receive) :
    Kept ({ state with incoming := rest }.enqueueFrame chunk) := by
  obtain ⟨restarts, goesOn, drops⟩ := clean chunk rest incoming
  unfold enqueueFrame overflows discardFor
  cases full : chunk.full with
  | true =>
      rw [full] at drops
      simp only [if_true] at drops ⊢
      split
      · rename_i tooMuch
        exact kept.overflow incoming (drops (of_decide_eq_true tooMuch))
      · have restarted := kept.restart incoming full (restarts full)
        simpa using restarted
  | false =>
      rw [full] at drops
      simp only [Bool.false_eq_true, if_false] at drops ⊢
      split
      · rename_i tooMuch
        exact kept.overflow incoming (drops (of_decide_eq_true tooMuch))
      · have whole := goesOn full
        have queued := kept.goOn incoming whole
        simpa [whole] using queued

variable {job : OutputJob}

/-- The writer takes the first job. -/
theorem Kept.take
    {rest : List OutputJob}
    (jobs : state.jobs = job :: rest)
    (runs : state.writerGone = false)
    (free : state.hand = none) :
    Kept
      { state with
        jobs := rest
        bytes := state.bytes - job.length
        hand := some job } := by
  have last : state.previous = latest state.log := by
    rw [previous, free]
  have counted : state.bytes - job.length =
      (rest.map OutputJob.length).sum := by
    rw [kept.counted, jobs, List.map_cons, List.sum_cons, Nat.add_sub_cancel_left]
  cases job with
  | control length =>
      have queued : state.queued = rest.filterMap OutputJob.chunk? := by
        rw [OutputState.queued, jobs]
        rfl
      exact
        { streamed := kept.streamed
          fromStream := kept.fromStream
          hand := fun _ held => nomatch held
          writing := fun _ => runs
          flows := by
            intro _ whole
            obtain ⟨place, inside, flow, goesOn⟩ := kept.flows runs whole
            rw [last] at goesOn
            rw [queued] at flow
            exact ⟨place, inside, flow, goesOn⟩
          drained := by
            intro _ broken
            obtain ⟨empty, -, others⟩ := kept.drained runs broken
            rw [queued] at empty
            exact ⟨empty, rfl, others⟩
          sound := kept.sound
          counted := counted
          acknowledged := kept.acknowledged }
  | frame chunk =>
      have queued : state.queued = chunk :: rest.filterMap OutputJob.chunk? := by
        rw [OutputState.queued, jobs]
        rfl
      have whole : state.broken = false := by
        cases broken : state.broken with
        | false => rfl
        | true =>
            have empty := (kept.drained runs broken).1
            rw [queued] at empty
            cases empty
      obtain ⟨place, inside, flow, goesOn⟩ := kept.flows runs whole
      rw [last] at goesOn
      rw [queued] at flow
      have here : state.stream[place]? = some chunk := by
        have first : (state.stream.drop place)[0]? = some chunk := by
          rw [← flow]
          rfl
        rwa [List.getElem?_drop, Nat.add_zero] at first
      have serial := (kept.streamed.serial place chunk here).1
      exact
        { streamed := kept.streamed
          fromStream := kept.fromStream
          hand := by
            intro other held
            cases held
            refine ⟨by rw [serial]; exact here, ?_⟩
            rcases goesOn with ⟨before, same, follows⟩ | ⟨finished, found, there,
              full⟩
            · exact .inr ⟨before, same, follows.trans serial.symm⟩
            · rw [here] at there
              cases there
              exact .inl ⟨full, finished⟩
          writing := fun _ => runs
          flows := by
            intro _ _
            refine ⟨place + 1, (List.getElem?_eq_some_iff.mp here).1, ?_,
              .inl ⟨chunk, rfl, by rw [serial]⟩⟩
            show rest.filterMap OutputJob.chunk? ++ state.incoming = _
            rw [← List.drop_drop, ← flow]
            rfl
          drained := by
            intro _ broken
            rw [show state.broken = true from broken] at whole
            cases whole
          sound := kept.sound
          counted := counted
          acknowledged := kept.acknowledged }

/-- All chunks of a frame were written when its last one was. -/
theorem Kept.covers
    (held : state.hand = some (.frame chunk))
    (last : chunk.last = true) :
    chunk.last = true ∧ ∀ place, chunk.start ≤ place → place ≤ chunk.serial →
      ∃ written, state.stream[place]? = some written ∧
        LogEntry.wrote written ∈ .wrote chunk :: state.log := by
  obtain ⟨here, fits⟩ := kept.hand chunk held
  obtain ⟨-, -, below⟩ := kept.streamed.serial _ _ here
  have fromStream : FromStream state.stream (.wrote chunk :: state.log) := by
    intro other logged
    rcases List.mem_cons.mp logged with same | earlier
    · cases same
      exact here
    · exact kept.fromStream other earlier
  refine ⟨last, fun place low high => ?_⟩
  have plain : ∀ other, chunk.start < other → other ≤ chunk.serial →
      ∀ between, state.stream[other]? = some between →
        between.full = false := fun other after upTo =>
    kept.streamed.between chunk.serial chunk here other
      (lt_of_le_of_lt below after) upTo
  obtain ⟨written, there, streamed, -⟩ := written_back fromStream rfl
    ⟨fits, kept.sound⟩ plain (chunk.serial - place) (by omega)
  rw [Nat.sub_sub_self high] at streamed
  exact ⟨written, streamed, List.mem_of_getElem? there⟩

/-- The writer has written its job. -/
theorem Kept.finish
    (held : state.hand = some job)
    (connected : Bool) : Kept (state.finishJob job connected) := by
  have runs := kept.writing (by rw [held]; rfl)
  cases job with
  | control length =>
      have last : state.previous = latest state.log := by
        rw [previous, held]
      exact
        { streamed := kept.streamed
          fromStream := kept.fromStream
          hand := fun _ held => nomatch held
          writing := fun held => nomatch held
          flows := by
            intro runs whole
            obtain ⟨place, inside, flow, goesOn⟩ := kept.flows runs whole
            rw [last] at goesOn
            exact ⟨place, inside, flow, goesOn⟩
          drained := by
            intro runs broken
            obtain ⟨empty, -, others⟩ := kept.drained runs broken
            exact ⟨empty, rfl, others⟩
          sound := kept.sound
          counted := kept.counted
          acknowledged := kept.acknowledged }
  | frame chunk =>
      obtain ⟨here, fits⟩ := kept.hand chunk held
      have last : state.previous = some chunk := by
        rw [previous, held]
      exact
        { streamed := kept.streamed
          fromStream := by
            intro other logged
            rcases List.mem_cons.mp logged with same | earlier
            · cases same
              exact here
            · exact kept.fromStream other earlier
          hand := fun _ held => nomatch held
          writing := fun held => nomatch held
          flows := by
            intro _ whole
            obtain ⟨place, inside, flow, goesOn⟩ := kept.flows runs whole
            rw [last] at goesOn
            exact ⟨place, inside, flow, goesOn⟩
          drained := by
            intro _ broken
            obtain ⟨-, nothing, -⟩ := kept.drained runs broken
            rw [handChunk, held] at nothing
            cases nothing
          sound := ⟨fits, kept.sound⟩
          counted := kept.counted
          acknowledged := by
            have before : ∀ other ∈ state.acknowledged,
                Covers (state.finishJob (.frame chunk) connected) other := by
              intro other sent
              obtain ⟨last, covered⟩ := kept.acknowledged other sent
              refine ⟨last, fun place low high => ?_⟩
              obtain ⟨written, streamed, logged⟩ := covered place low high
              exact ⟨written, streamed, List.mem_cons_of_mem _ logged⟩
            intro other sent
            unfold finishJob at sent
            dsimp only at sent
            split at sent
            · rename_i complete
              rcases List.mem_cons.mp sent with same | old
              · rw [same]
                exact kept.covers held ((Bool.and_eq_true _ _).mp complete).1
              · exact before other old
            · exact before other sent }

end

/-- The writer returns. -/
theorem Kept.stop
    (kept : Kept state) :
    Kept
      { state with
        hand := none
        writerGone := true } where
  streamed := kept.streamed
  fromStream := kept.fromStream
  hand := fun _ held => nomatch held
  writing := fun held => nomatch held
  flows := fun runs => nomatch runs
  drained := fun runs => nomatch runs
  sound := kept.sound
  counted := kept.counted
  acknowledged := kept.acknowledged

/-- Every clean event keeps the invariant. -/
theorem kept_outputStep
    {before after : OutputState}
    {event : OutputEvent}
    (kept : Kept before)
    (clean : Clean before event)
    (stepped : outputStep before event = some after) : Kept after := by
  cases event with
  | send full first rest =>
      simp only [outputStep] at stepped
      split at stepped
      · cases stepped
      · cases stepped
        exact kept.send full first rest
  | resync =>
      simp only [outputStep] at stepped
      split at stepped
      · cases stepped
      · cases stepped
        exact { kept with }
  | receive =>
      simp only [outputStep] at stepped
      split at stepped
      · cases stepped
      · rename_i chunk rest incoming
        cases stepped
        exact kept.receive incoming clean
  | control length =>
      cases stepped
      exact kept.control length
  | take =>
      simp only [outputStep] at stepped
      split at stepped
      · cases stepped
      · rename_i job rest jobs
        split at stepped
        · cases stepped
        · rename_i free
          cases stepped
          simp only [Bool.or_eq_true, not_or, Bool.not_eq_true,
            Option.isSome_eq_false_iff, Option.isNone_iff_eq_none] at free
          exact kept.take jobs free.1 free.2
  | written connected =>
      obtain ⟨job, held, same⟩ := Option.map_eq_some_iff.mp stepped
      rw [← same]
      exact kept.finish held connected
  | writeFails =>
      obtain ⟨job, held, same⟩ := Option.map_eq_some_iff.mp stepped
      rw [← same]
      exact kept.stop

theorem kept_reachable
    (reached : outputMachine.Reachable Clean state) : Kept state := by
  have preserved : outputMachine.Preserved Clean Kept :=
    fun _ _ _ kept clean stepped => kept_outputStep kept clean stepped
  refine reached.invariant ?_ preserved
  intro start initial
  rw [initial]
  exact kept_start

/-! ## What is on the terminal -/

/-- Frames are written on their bases, completely; after an overflow a full
frame comes first; a frame is acknowledged when all of it was written; and the
counter of the queue is right. -/
structure ShowsOnBase (state : OutputState) : Prop where
  /-- Behind a chunk of an incremental frame come the chunks of this frame and
  of the one before it, back to the first, and nothing else. -/
  based : ∀ later chunk earlier,
    state.log = later ++ .wrote chunk :: earlier →
    chunk.incremental = true →
    ∀ place, chunk.base ≤ place → place ≤ chunk.serial →
      ∃ written, state.stream[place]? = some written ∧
        (LogEntry.wrote chunk :: earlier)[chunk.serial - place]? =
          some (.wrote written)
  /-- What follows a chunk of an incremental frame that is not its last is the
  next chunk. -/
  completed : ∀ later entry chunk earlier,
    state.log = later ++ entry :: .wrote chunk :: earlier →
    chunk.incremental = true → chunk.last = false →
    ∃ next, entry = .wrote next ∧
      state.stream[chunk.serial + 1]? = some next
  afterOverflow : ∀ later chunk earlier,
    state.log = later ++ .wrote chunk :: .overflowed :: earlier →
    chunk.full = true
  acknowledged : ∀ chunk ∈ state.acknowledged, state.Covers chunk
  counted : state.bytes = (state.jobs.map OutputJob.length).sum

end OutputState

open OutputState

/-- In every run whose events are clean, the terminal shows each difference on
its own base. -/
theorem shows_on_base
    {state : OutputState}
    (reached : outputMachine.Reachable Clean state) : state.ShowsOnBase := by
  have kept := kept_reachable reached
  have fits : ∀ later entry earlier,
      state.log = later ++ entry :: earlier →
      Sound (entry :: earlier) := by
    intro later entry earlier same
    exact Sound.of_append (same ▸ kept.sound)
  exact
    { based := by
        intro later chunk earlier same incremental place low high
        have upTo : FromStream state.stream (.wrote chunk :: earlier) := by
          intro other logged
          refine kept.fromStream other ?_
          rw [same]
          exact List.mem_append_right _ logged
        have here := upTo chunk List.mem_cons_self
        obtain ⟨written, there, streamed, -⟩ := written_back upTo rfl
          (fits _ _ _ same) (kept.streamed.between chunk.serial chunk here)
          (chunk.serial - place) (by omega)
        rw [Nat.sub_sub_self high] at streamed
        exact ⟨written, streamed, there⟩
      completed := by
        intro later entry chunk earlier same incremental unended
        have half : unfinished (latest (.wrote chunk :: earlier)) = true := by
          simp [latest, unfinished, incremental, unended]
        have follows := (fits _ _ _ same).1
        cases entry with
        | overflowed =>
            rw [show unfinished (latest (.wrote chunk :: earlier)) = false from
              follows] at half
            cases half
        | wrote next =>
            rcases follows with ⟨-, finished⟩ | ⟨before, last, serial⟩
            · rw [finished] at half
              cases half
            · cases last
              refine ⟨next, rfl, ?_⟩
              rw [serial]
              refine kept.fromStream next ?_
              rw [same]
              exact List.mem_append_right _ List.mem_cons_self
      afterOverflow := by
        intro later chunk earlier same
        rcases (fits _ _ _ same).1 with ⟨full, -⟩ | ⟨before, last, -⟩
        · exact full
        · cases last
      acknowledged := kept.acknowledged
      counted := kept.counted }

/-- Whether an event is clean. -/
def isClean
    (state : OutputState) :
    OutputEvent → Bool
  | .receive =>
      match state.incoming with
      | [] => true
      | chunk :: _ =>
          (!chunk.full ||
            (decide (state.controlBytes = 0) && !unfinished state.previous)) &&
          (chunk.full || !state.broken) &&
          (!decide (outputQueueBytes <
              (if chunk.full then 0 else state.bytes) + chunk.length) ||
            (state.handChunk.isNone && !unfinished state.previous))
  | _ => true

theorem clean_of_isClean
    (state : OutputState)
    (event : OutputEvent)
    (passes : isClean state event = true) : Clean state event := by
  cases event with
  | receive =>
      intro chunk rest incoming
      simp only [isClean, incoming, Bool.and_eq_true, Bool.or_eq_true,
        Bool.not_eq_true', decide_eq_true_eq, decide_eq_false_iff_not,
        Option.isNone_iff_eq_none] at passes
      obtain ⟨⟨starts, goesOn⟩, fits⟩ := passes
      refine ⟨fun full => ?_, fun rest => ?_, fun overflows => ?_⟩
      · exact starts.resolve_left (by simp [full])
      · exact goesOn.resolve_left (by simp [rest])
      · exact fits.resolve_left (fun within => within overflows)
  | _ => trivial

/-- A full frame and an incremental one of two chunks reach the terminal. -/
def twoFrames :
    List OutputEvent :=
  [.send true 10 [], .receive, .take, .written true, .control 5,
    .send false 7 [3], .receive, .take, .written true, .receive, .take,
    .written true, .take, .written true]

def twoFramesShown :
    OutputState :=
  (Machine.follow outputStep isClean .start twoFrames).getD .start

theorem shows_on_base_two_frames :
    twoFramesShown.log.length = 3 ∧ twoFramesShown.acknowledged.length = 2 ∧
      twoFramesShown.ShowsOnBase := by
  have followed :
      Machine.follow outputStep isClean .start twoFrames =
        some twoFramesShown := by
    decide +kernel
  refine ⟨by decide +kernel, by decide +kernel, shows_on_base ?_⟩
  exact Machine.Reachable.follow (fun _ _ _ stepped => stepped)
    clean_of_isClean (.initial rfl) followed

/-- Six clipboards of 1 MiB fill the queue, so that the first chunk of an
incremental frame overflows; its second chunk is queued and written all the
same. -/
def overflowInFrame :
    List OutputEvent :=
  [.send true 10 [], .receive, .take, .written true] ++
    List.replicate 6 (.control 1398112) ++
    [.send false 262144 [10], .receive, .receive, .take, .written true]

def shownAfterOverflow :
    OutputState :=
  (Machine.follow outputStep (fun _ _ => true) .start overflowInFrame).getD
    .start

theorem written_after_overflow :
    ¬ ∀ state : OutputState,
      outputMachine.Reachable (fun _ _ => True) state → state.ShowsOnBase := by
  intro always
  have followed :
      Machine.follow outputStep (fun _ _ => true) .start overflowInFrame =
        some shownAfterOverflow := by
    decide +kernel
  have shows := always shownAfterOverflow
    (Machine.Reachable.follow (fun _ _ _ stepped => stepped)
      (fun _ _ _ => trivial) (.initial rfl) followed)
  have logged :
      ∃ chunk earlier, shownAfterOverflow.log =
        [] ++ .wrote chunk :: .overflowed :: earlier ∧ chunk.full = false := by
    refine ⟨⟨2, false, true, 10, 2, 1, 0, true⟩,
      [.wrote ⟨1, true, true, 10, 0, 0, 0, false⟩], ?_, rfl⟩
    decide +kernel
  obtain ⟨chunk, earlier, same, rest⟩ := logged
  rw [shows.afterOverflow [] chunk earlier same] at rest
  cases rest
end Rendering
end Vvmux
