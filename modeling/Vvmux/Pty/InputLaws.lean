import Mathlib.Algebra.Order.Ring.Int
import Mathlib.Data.List.Nodup
import Vvmux.Pty.Input

/-!
# The laws of PTY input

Whatever the calls, the worker and the PTY do, messages are written in order
and once, the counter is exact and bounded, and a refused call leaves nothing
behind.  A call made behind the worker's stop learns of it as long as the
bytes that the stop left on the counter leave room for its own.
-/

namespace Vvmux
namespace Pty

namespace PtyInput

/-- The bytes that messages and calls hold on the counter. -/
def held (input : PtyInput) : Nat :=
  (bytesOf (input.worker.unsettled ++ input.queue)).length +
    (input.calls.map Call.reserved).sum

/-- What holds in every state of a run. -/
structure Laws (input : PtyInput) : Prop where
  /-- The PTY took a prefix of the accepted messages, in queue order. -/
  ordered : input.written <+: bytesOf input.accepted
  /-- Each call has at most one message. -/
  once : (input.accepted.map InputMessage.call).Nodup
  /-- A completion yields success only when its message and every message
  ahead of it are written and flushed. -/
  confirmed : ∀ (index : Nat) (call : Call),
    (index, .ok ()) ∈ input.completions →
    input.calls[index]? = some call →
      bytesOf (input.accepted.take call.position) <+:
        input.written.take input.flushed
  /-- A call that returned an error has no message. -/
  refused : ∀ (index : Nat) (call : Call) (kind : ErrorKind),
    input.calls[index]? = some call →
    call.phase = .returned (.error kind) →
      ∀ message ∈ input.accepted, message.call ≠ index
  /-- A call that returned success has its message at its position. -/
  kept : ∀ (index : Nat) (call : Call),
    input.calls[index]? = some call →
    call.phase = .returned (.ok ()) →
    call.bytes ≠ [] →
      0 < call.position ∧
        input.accepted[call.position - 1]? =
          some ⟨index, call.bytes, call.completion⟩
  /-- The counter is the bytes that are not processed, and the ones that the
  calls in progress have reserved. -/
  counted : input.queuedBytes = input.held
  bounded : input.queuedBytes ≤ inputQueueBytes
  /-- A call of admissible size, made behind the worker's stop, returns
  nothing but that the PTY is gone. -/
  reported : ∀ (index : Nat) (call : Call) (result : Except ErrorKind Unit),
    input.calls[index]? = some call →
    call.afterStop = true →
    call.bytes ≠ [] →
    call.bytes.length ≤ inputQueueBytes →
    call.phase = .returned result →
      result = .error .brokenPipe

/-- The condition on a step: a completed call with nothing to send is made
only when every accepted message is flushed, and a call made behind the
worker's stop reads the counter only when its bytes fit. -/
def Roomy
    (input : PtyInput) :
    Event → Prop
  | .call bytes completion =>
      bytes = [] → completion = true →
        bytesOf input.accepted = input.written.take input.flushed
  | .load index =>
      ∀ call : Call, input.calls[index]? = some call → call.afterStop = true →
        input.queuedBytes + call.bytes.length ≤ inputQueueBytes
  | .exchange index _ =>
      ∀ call : Call, input.calls[index]? = some call → call.afterStop = true →
        input.queuedBytes + call.bytes.length ≤ inputQueueBytes
  | _ => True

/-! ## Lists of calls -/

variable {Item : Type*} {item found : Item}

/-- What stands in a list behind a change of one item. -/
theorem getElem?_set_cases
    {items : List Item}
    {index position : Nat}
    (at_position : (items.set index item)[position]? = some found) :
    position = index ∧ found = item ∨
      position ≠ index ∧ items[position]? = some found := by
  by_cases same : index = position
  · subst same
    left
    obtain ⟨within, equal⟩ := List.getElem?_eq_some_iff.mp at_position
    rw [List.getElem_set_self] at equal
    exact ⟨rfl, equal.symm⟩
  · right
    rw [List.getElem?_set_ne same] at at_position
    exact ⟨Ne.symm same, at_position⟩

theorem getElem?_set_found
    {items : List Item}
    {index : Nat}
    {old : Item}
    (found : items[index]? = some old)
    (item : Item) : (items.set index item)[index]? = some item := by
  obtain ⟨within, -⟩ := List.getElem?_eq_some_iff.mp found
  exact List.getElem?_set_self within

theorem getElem?_concat_cases
    {items : List Item}
    {position : Nat}
    (at_position : (items ++ [item])[position]? = some found) :
    position = items.length ∧ found = item ∨
      items[position]? = some found := by
  rcases Nat.lt_trichotomy position items.length with inside | rfl | outside
  · rw [List.getElem?_append_left inside] at at_position
    exact .inr at_position
  · rw [List.getElem?_concat_length] at at_position
    exact .inl ⟨rfl, (Option.some.inj at_position).symm⟩
  · rw [List.getElem?_eq_none (by simp; omega)] at at_position
    cases at_position

/-- A sum over a list changes with the item that does. -/
theorem sum_map_set
    (weight : Item → Nat)
    {items : List Item}
    {index : Nat}
    {old : Item}
    (found : items[index]? = some old)
    (item : Item) :
    ((items.set index item).map weight).sum + weight old =
      (items.map weight).sum + weight item := by
  induction items generalizing index with
  | nil => cases found
  | cons first rest ih =>
      cases index with
      | zero =>
          cases found
          simp only [List.set_cons_zero, List.map_cons, List.sum_cons]
          omega
      | succ index =>
          have further := @ih index found
          simp only [List.set_cons_succ, List.map_cons, List.sum_cons]
          omega

theorem bytesOf_append
    (first second : List InputMessage) :
    bytesOf (first ++ second) = bytesOf first ++ bytesOf second :=
  List.flatMap_append

theorem bytesOf_singleton
    (message : InputMessage) : bytesOf [message] = message.bytes :=
  List.flatMap_singleton _ _

/-! ## The counter -/

/-- The counter is exact and bounded, every value that a call compares with
leaves room for its bytes, and a call in progress is of admissible size. -/
structure Counter (input : PtyInput) : Prop where
  counted : input.queuedBytes = input.held
  bounded : input.queuedBytes ≤ inputQueueBytes
  fits : ∀ (index : Nat) (call : Call) (queued : Nat),
    input.calls[index]? = some call →
    call.phase = .comparing queued →
      queued + call.bytes.length ≤ inputQueueBytes
  admissible : ∀ (index : Nat) (call : Call),
    input.calls[index]? = some call →
    (∀ result, call.phase ≠ .returned result) →
      call.bytes ≠ [] ∧ call.bytes.length ≤ inputQueueBytes

section

variable {input after : PtyInput} {index : Nat} {call : Call}

theorem held_moved
    (found : input.calls[index]? = some call)
    (phase : Phase) :
    (input.moved index call phase).held + call.reserved =
      input.held + Call.reserved { call with phase := phase } := by
  have sums := sum_map_set Call.reserved found { call with phase := phase }
  simp only [held, moved]
  omega

/-- A call goes on to a phase that reserves what the counter gains. -/
theorem Counter.moved
    {phase : Phase}
    {queued : Nat}
    (counter : input.Counter)
    (found : input.calls[index]? = some call)
    (progress : ∀ result, call.phase ≠ .returned result)
    (balance : queued + call.reserved =
      input.queuedBytes + Call.reserved { call with phase := phase })
    (bounded : queued ≤ inputQueueBytes)
    (fits : ∀ value, phase = .comparing value →
      value + call.bytes.length ≤ inputQueueBytes) :
    Counter { input.moved index call phase with queuedBytes := queued } where
  counted := by
    have sums := held_moved found phase
    have exact := counter.counted
    show queued = (input.moved index call phase).held
    omega
  bounded := bounded
  fits := by
    intro position other value located comparing
    rcases getElem?_set_cases located with ⟨-, rfl⟩ | ⟨-, located⟩
    · exact fits value comparing
    · exact counter.fits position other value located comparing
  admissible := by
    intro position other located unfinished
    rcases getElem?_set_cases located with ⟨-, rfl⟩ | ⟨-, located⟩
    · exact counter.admissible index call found progress
    · exact counter.admissible position other located unfinished

theorem Counter.loaded
    (counter : input.Counter)
    (found : input.calls[index]? = some call)
    (progress : ∀ result, call.phase ≠ .returned result)
    (free : call.reserved = 0) : (input.loaded index call).Counter := by
  unfold PtyInput.loaded
  split
  · exact counter.moved found progress (by rw [free]; rfl) counter.bounded
      (fun value comparing => by cases comparing)
  · refine counter.moved found progress (by rw [free]; rfl) counter.bounded
      (fun value comparing => ?_)
    cases comparing
    omega

theorem Counter.initial : start.Counter where
  counted := rfl
  bounded := Nat.zero_le _
  fits := fun _ _ _ found => by cases found
  admissible := fun _ _ found => by cases found

/-- A new call reserves nothing yet. -/
theorem Counter.begin
    (counter : input.Counter)
    (bytes : Bytes)
    (completion : Bool) : (input.begin bytes completion).Counter := by
  have exact := counter.counted
  unfold PtyInput.begin
  constructor
  · simp only [held, List.map_append, List.sum_append, List.map_cons,
      List.map_nil, List.sum_cons, List.sum_nil, Call.reserved]
    split_ifs <;> exact exact
  · exact counter.bounded
  · intro position other value located comparing
    rcases getElem?_concat_cases located with ⟨-, rfl⟩ | located
    · dsimp only at comparing
      split_ifs at comparing
    · exact counter.fits position other value located comparing
  · intro position other located unfinished
    rcases getElem?_concat_cases located with ⟨-, rfl⟩ | located
    · dsimp only at unfinished
      split_ifs at unfinished with empty long
      · exact absurd rfl (unfinished _)
      · exact absurd rfl (unfinished _)
      · exact ⟨empty, Nat.le_of_not_lt long⟩
    · exact counter.admissible position other located unfinished

/-- The channel answers an offer. -/
theorem Counter.offered
    (counter : input.Counter)
    (found : input.calls[index]? = some call)
    (phase : call.phase = .sending) : (input.offered index call).Counter := by
  have progress (result : Except ErrorKind Unit) :
      call.phase ≠ .returned result := by
    rw [phase]
    nofun
  unfold PtyInput.offered
  split_ifs
  · exact counter.moved found progress (by simp only [Call.reserved, phase])
      counter.bounded (fun value comparing => by cases comparing)
  · exact counter.moved found progress (by simp only [Call.reserved, phase])
      counter.bounded (fun value comparing => by cases comparing)
  · constructor
    · have exact := counter.counted
      have sums := sum_map_set Call.reserved found
        { call with
          phase := .returned (.ok ())
          position := input.accepted.length + 1 }
      simp only [Call.reserved, phase] at sums
      simp only [held, admitted, bytesOf_append, bytesOf_singleton,
        List.length_append] at exact ⊢
      omega
    · exact counter.bounded
    · intro position other value located comparing
      rcases getElem?_set_cases located with ⟨-, rfl⟩ | ⟨-, located⟩
      · cases comparing
      · exact counter.fits position other value located comparing
    · intro position other located unfinished
      rcases getElem?_set_cases located with ⟨-, rfl⟩ | ⟨-, located⟩
      · exact absurd rfl (unfinished _)
      · exact counter.admissible position other located unfinished

/-- A step that changes neither the calls nor what is held. -/
theorem Counter.frame
    (counter : input.Counter)
    (calls : after.calls = input.calls)
    (balance : after.queuedBytes +
        (bytesOf (input.worker.unsettled ++ input.queue)).length =
      input.queuedBytes +
        (bytesOf (after.worker.unsettled ++ after.queue)).length)
    (fewer : after.queuedBytes ≤ input.queuedBytes) : after.Counter where
  counted := by
    have exact := counter.counted
    unfold held at exact ⊢
    rw [calls]
    omega
  bounded := Nat.le_trans fewer counter.bounded
  fits := by
    rw [calls]
    exact counter.fits
  admissible := by
    rw [calls]
    exact counter.admissible

/-- A step of the worker keeps the counter. -/
theorem Counter.workerStep
    {event : Event}
    (counter : input.Counter)
    (stepped : WorkerStep input event after) : after.Counter := by
  cases stepped with
  | receive receiving queued =>
      refine counter.frame rfl ?_ (Nat.le_refl _)
      simp only [receiving, queued, Worker.unsettled]
      rfl
  | write writing =>
      refine counter.frame rfl ?_ (Nat.le_refl _)
      simp only [writing, Worker.unsettled, wrote]
  | @settle message result settling =>
      refine counter.frame rfl ?_ (Nat.sub_le _ _)
      have exact := counter.counted
      simp only [held, settling, Worker.unsettled, bytesOf_append,
        bytesOf_singleton, List.length_append] at exact
      simp only [settling, Worker.unsettled, bytesOf_append,
        bytesOf_singleton, List.length_append, List.nil_append]
      omega
  | @complete message result completing =>
      refine counter.frame rfl ?_ (Nat.le_refl _)
      cases result <;> simp only [completing, Worker.unsettled, completed]
  | stop leaving =>
      refine counter.frame rfl ?_ (Nat.le_refl _)
      simp only [leaving, Worker.unsettled]

/-- One step keeps the counter. -/
theorem Counter.step
    {event : Event}
    (counter : input.Counter)
    (stepped : Step input event after) : after.Counter := by
  cases stepped with
  | call bytes completion => exact counter.begin bytes completion
  | load found phase =>
      refine counter.loaded found (fun result => by rw [phase]; nofun) ?_
      simp only [Call.reserved, phase]
  | @exchange _ queued spurious call found phase =>
      unfold exchanged
      split
      next same =>
        have fits := counter.fits _ call queued found phase
        refine counter.moved found (fun result => by rw [phase]; nofun) ?_
          fits (fun value comparing => by cases comparing)
        simp only [Call.reserved, phase, same.1]
        omega
      · refine counter.loaded found (fun result => by rw [phase]; nofun) ?_
        simp only [Call.reserved, phase]
  | trySend found phase => exact counter.offered found phase
  | @release index kind call found phase =>
      have sums := held_moved found (.returned (.error kind))
      have exact := counter.counted
      simp only [Call.reserved, phase] at sums
      refine counter.moved found (fun result => by rw [phase]; nofun) ?_
        (Nat.le_trans (Nat.sub_le _ _) counter.bounded)
        (fun value comparing => by cases comparing)
      simp only [Call.reserved, phase]
      omega
  | worker worked => exact counter.workerStep worked

end

/-! ## Steps that move a call -/

/-- A call in progress goes on without a message, and nothing else changes but
the counter. -/
def Moves (input after : PtyInput) : Prop :=
  ∃ index call phase queued,
    input.calls[index]? = some call ∧
      (∀ result, call.phase ≠ .returned result) ∧
      phase ≠ .returned (.ok ()) ∧
      after = { input.moved index call phase with queuedBytes := queued }

section

variable {input after : PtyInput} {index : Nat} {call : Call}

theorem loaded_moves
    (found : input.calls[index]? = some call)
    (progress : ∀ result, call.phase ≠ .returned result) :
    input.Moves (input.loaded index call) := by
  unfold loaded
  split
  · exact ⟨index, call, .returned (.error .wouldBlock), input.queuedBytes,
      found, progress, by simp, rfl⟩
  · exact ⟨index, call, .comparing input.queuedBytes, input.queuedBytes,
      found, progress, by simp, rfl⟩

/-- What a step does to the calls and to the stream: a call is added, goes on,
or gets its message into the channel, or the worker takes a step. -/
theorem step_outcome
    {event : Event}
    (stepped : Step input event after) :
    (∃ bytes completion, event = .call bytes completion ∧
        after = input.begin bytes completion) ∨
      input.Moves after ∨
      (∃ index call, input.calls[index]? = some call ∧
        call.phase = .sending ∧
        input.worker.isStopped = false ∧
        after = input.admitted index call) ∨
      WorkerStep input event after := by
  cases stepped with
  | call bytes completion => exact .inl ⟨bytes, completion, rfl, rfl⟩
  | load found phase =>
      exact .inr (.inl (loaded_moves found (by rw [phase]; nofun)))
  | @exchange index queued spurious call found phase =>
      right; left
      unfold exchanged
      split
      · exact ⟨index, call, .sending, queued + call.bytes.length, found,
          by rw [phase]; nofun, by simp, rfl⟩
      · exact loaded_moves found (by rw [phase]; nofun)
  | @trySend index call found phase =>
      right
      unfold offered
      split_ifs with stopped
      · exact .inl ⟨index, call, .releasing .brokenPipe, input.queuedBytes,
          found, by rw [phase]; nofun, by simp, rfl⟩
      · exact .inl ⟨index, call, .releasing .wouldBlock, input.queuedBytes,
          found, by rw [phase]; nofun, by simp, rfl⟩
      · exact .inr (.inl ⟨index, call, found, phase,
          eq_false_of_ne_true stopped, rfl⟩)
  | @release index kind call found phase =>
      exact .inr (.inl ⟨index, call, .returned (.error kind),
        input.queuedBytes - call.bytes.length, found, by rw [phase]; nofun,
        by simp, rfl⟩)
  | worker worked => exact .inr (.inr (.inr worked))

end

/-! ## The stream -/

/-- The accepted messages are the handled ones, the one in hand and the queued
ones; the PTY took all bytes of the handled ones, or a part of the last. -/
structure Stream (input : PtyInput) : Prop where
  parts : input.accepted =
    input.handled ++ input.worker.unwritten ++ input.queue
  last : ∀ message result,
    input.worker = .settling message result ∨
        input.worker = .completing message result →
      ∃ front, input.handled = front ++ [message]
  sound : input.worker.failed = false →
    input.written = bytesOf input.handled ∧
      input.flushed = input.written.length
  broken : input.worker.failed = true →
    ∃ front last taken, input.handled = front ++ [last] ∧
      input.written = bytesOf front ++ last.bytes.take taken
  flushed : input.flushed ≤ input.written.length

theorem Stream.initial : start.Stream where
  parts := rfl
  last := fun _ _ impossible => by rcases impossible with h | h <;> cases h
  sound := fun _ => ⟨rfl, rfl⟩
  broken := fun failed => by cases failed
  flushed := Nat.le_refl _

variable {event : Event}

/-- A step of the worker keeps the stream. -/
theorem Stream.workerStep
    {input after : PtyInput}
    (stream : input.Stream)
    (stepped : WorkerStep input event after) : after.Stream := by
  cases stepped with
  | receive receiving queued =>
      have idle : input.worker.failed = false := by rw [receiving]; rfl
      refine ⟨?_, fun _ _ handed => ?_, fun _ => stream.sound idle,
        (fun failed => by cases failed), stream.flushed⟩
      · have parts := stream.parts
        rw [receiving, queued] at parts
        simpa [Worker.unwritten] using parts
      · rcases handed with handed | handed <;> cases handed
  | @write message taken result writing =>
      have sound := stream.sound (by rw [writing]; rfl)
      refine ⟨?_, fun _ _ handed => ?_, ?_, ?_, ?_⟩
      · have parts := stream.parts
        rw [writing] at parts
        simpa [Worker.unwritten, wrote] using parts
      · rcases handed with handed | handed <;> cases handed
        exact ⟨input.handled, rfl⟩
      · intro fine
        cases result with
        | error text => cases fine
        | ok done =>
            simp only [wrote, sound.1, bytesOf_append, bytesOf_singleton,
              and_self]
      · intro failed
        cases result with
        | ok done => cases failed
        | error text =>
            exact ⟨input.handled, message, taken, rfl, by
              simp only [wrote, sound.1]⟩
      · have flushed := stream.flushed
        cases result with
        | ok done => exact Nat.le_refl _
        | error text =>
            simp only [wrote, List.length_append]
            omega
  | @settle message result settling =>
      refine ⟨?_, fun _ _ handed => ?_, fun fine => stream.sound ?_,
        fun failed => stream.broken ?_, stream.flushed⟩
      · have parts := stream.parts
        rw [settling] at parts
        exact parts
      · rcases handed with handed | handed <;> cases handed
        exact stream.last message result (.inl settling)
      · rw [settling]
        cases result with
        | ok done => rfl
        | error text => cases fine
      · rw [settling]
        cases result with
        | ok done => cases failed
        | error text => rfl
  | @complete message result completing =>
      refine ⟨?_, fun _ _ handed => ?_, fun fine => stream.sound ?_,
        fun failed => stream.broken ?_, stream.flushed⟩
      · have parts := stream.parts
        rw [completing] at parts
        cases result <;> exact parts
      · cases result <;> rcases handed with handed | handed <;> cases handed
      · rw [completing]
        cases result with
        | ok done => rfl
        | error text => cases fine
      · rw [completing]
        cases result with
        | ok done => cases failed
        | error text => rfl
  | stop leaving =>
      refine ⟨?_, fun _ _ handed => ?_, fun fine => (by cases fine),
        fun _ => stream.broken (by rw [leaving]; rfl), stream.flushed⟩
      · have parts := stream.parts
        rw [leaving] at parts
        exact parts
      · rcases handed with handed | handed <;> cases handed

/-- One step keeps the stream. -/
theorem Stream.step
    {input after : PtyInput}
    {event : Event}
    (stream : input.Stream)
    (stepped : Step input event after) : after.Stream := by
  rcases step_outcome stepped with ⟨bytes, completion, -, rfl⟩ |
      ⟨index, call, phase, queued, -, -, -, rfl⟩ |
      ⟨index, call, -, -, -, rfl⟩ | worked
  · exact { stream with }
  · exact { stream with }
  · refine ⟨?_, stream.last, stream.sound, stream.broken, stream.flushed⟩
    simp only [admitted, stream.parts, List.append_assoc]
  · exact stream.workerStep worked

/-- Of the accepted messages, the PTY took a prefix. -/
theorem Stream.ordered
    {input : PtyInput}
    (stream : input.Stream) : input.written <+: bytesOf input.accepted := by
  rw [stream.parts, List.append_assoc, bytesOf_append]
  refine List.IsPrefix.trans ?_ (List.prefix_append _ _)
  cases failed : input.worker.failed with
  | false =>
      simp only [(stream.sound failed).1, List.prefix_rfl]
  | true =>
      obtain ⟨front, last, taken, handled, written⟩ := stream.broken failed
      rw [handled, written, bytesOf_append, bytesOf_singleton]
      exact (List.prefix_append_right_inj _).mpr (List.take_prefix _ _)

/-! ## Messages and their calls -/

/-- Each accepted message belongs to the call that returned success with its
position, and each such call with bytes has its message. -/
structure Records (input : PtyInput) : Prop where
  sent : ∀ (position : Nat) (message : InputMessage),
    input.accepted[position]? = some message →
    ∃ call, input.calls[message.call]? = some call ∧
      call.phase = .returned (.ok ()) ∧ call.position = position + 1
  kept : ∀ (index : Nat) (call : Call),
    input.calls[index]? = some call →
    call.phase = .returned (.ok ()) →
    call.bytes ≠ [] →
      0 < call.position ∧
        input.accepted[call.position - 1]? =
          some ⟨index, call.bytes, call.completion⟩
  within : ∀ (index : Nat) (call : Call),
    input.calls[index]? = some call →
      call.position ≤ input.accepted.length

theorem Records.initial : start.Records where
  sent := fun _ _ found => by cases found
  kept := fun _ _ found => by cases found
  within := fun _ _ found => by cases found

section

variable {input after : PtyInput} {index : Nat} {call : Call}

theorem Records.begin
    (records : input.Records)
    (bytes : Bytes)
    (completion : Bool) : (input.begin bytes completion).Records where
  sent := by
    intro position message located
    obtain ⟨call, found, returned⟩ := records.sent position message located
    obtain ⟨inside, -⟩ := List.getElem?_eq_some_iff.mp found
    refine ⟨call, ?_, returned⟩
    rw [← found]
    exact List.getElem?_append_left inside
  kept := by
    intro position other located returned sends
    rcases getElem?_concat_cases located with ⟨-, rfl⟩ | located
    · dsimp only at returned sends
      rw [if_neg sends] at returned
      split_ifs at returned
      cases returned
    · exact records.kept position other located returned sends
  within := by
    intro position other located
    rcases getElem?_concat_cases located with ⟨-, rfl⟩ | located
    · exact Nat.le_refl _
    · exact records.within position other located

theorem Records.moves
    (records : input.Records)
    (moved : input.Moves after) : after.Records := by
  obtain ⟨index, call, phase, queued, found, progress, unsuccessful, rfl⟩ := moved
  refine ⟨?_, ?_, ?_⟩
  · intro position message located
    obtain ⟨sender, sent, returned⟩ := records.sent position message located
    refine ⟨sender, ?_, returned⟩
    have other : index ≠ message.call := by
      rintro rfl
      rw [found] at sent
      cases sent
      exact progress _ returned.1
    rw [← sent]
    exact List.getElem?_set_ne other
  · intro position other located returned sends
    rcases getElem?_set_cases located with ⟨-, rfl⟩ | ⟨-, located⟩
    · exact absurd returned unsuccessful
    · exact records.kept position other located returned sends
  · intro position other located
    rcases getElem?_set_cases located with ⟨-, rfl⟩ | ⟨-, located⟩
    · exact records.within index call found
    · exact records.within position other located

theorem Records.admitted
    (records : input.Records)
    (found : input.calls[index]? = some call)
    (phase : call.phase = .sending) : (input.admitted index call).Records where
  sent := by
    intro position message located
    rcases getElem?_concat_cases located with ⟨rfl, rfl⟩ | located
    · exact ⟨_, getElem?_set_found found _, rfl, rfl⟩
    · obtain ⟨sender, sent, returned⟩ := records.sent position message located
      refine ⟨sender, ?_, returned⟩
      have other : index ≠ message.call := by
        rintro rfl
        rw [found] at sent
        cases sent
        rw [phase] at returned
        cases returned.1
      rw [← sent]
      exact List.getElem?_set_ne other
  kept := by
    intro position other located returned sends
    rcases getElem?_set_cases located with ⟨rfl, rfl⟩ | ⟨-, located⟩
    · exact ⟨Nat.succ_pos _, List.getElem?_concat_length⟩
    · obtain ⟨positive, message⟩ :=
        records.kept position other located returned sends
      obtain ⟨inside, -⟩ := List.getElem?_eq_some_iff.mp message
      refine ⟨positive, ?_⟩
      rw [← message]
      exact List.getElem?_append_left inside
  within := by
    intro position other located
    show other.position ≤ (input.accepted ++ [_]).length
    rw [List.length_append]
    rcases getElem?_set_cases located with ⟨rfl, rfl⟩ | ⟨-, located⟩
    · exact Nat.le_refl _
    · exact Nat.le_add_right_of_le (records.within position other located)

/-- One step keeps the records. -/
theorem Records.step
    {event : Event}
    (records : input.Records)
    (stepped : Step input event after) : after.Records := by
  rcases step_outcome stepped with ⟨bytes, completion, -, rfl⟩ | moved |
      ⟨index, call, found, phase, -, rfl⟩ | worked
  · exact records.begin bytes completion
  · exact records.moves moved
  · exact records.admitted found phase
  · cases worked <;> exact { records with }

end

/-! ## Completions -/

/-- A completion that got success belongs to a call whose messages are written
and flushed up to its position. -/
def Confirmed (input : PtyInput) : Prop :=
  ∀ index, (index, .ok ()) ∈ input.completions →
    ∃ call, input.calls[index]? = some call ∧
      call.phase = .returned (.ok ()) ∧
      bytesOf (input.accepted.take call.position) <+:
        input.written.take input.flushed

section

variable {input after : PtyInput} {index : Nat} {call : Call}

section

variable (confirmed : input.Confirmed)
include confirmed

theorem Confirmed.begin
    {bytes : Bytes}
    {completion : Bool}
    (roomy : input.Roomy (.call bytes completion)) :
    (input.begin bytes completion).Confirmed := by
  intro index got
  have earlier (got : (index, .ok ()) ∈ input.completions) :
      ∃ call, (input.begin bytes completion).calls[index]? = some call ∧
        call.phase = .returned (.ok ()) ∧
        bytesOf (input.accepted.take call.position) <+:
          input.written.take input.flushed := by
    obtain ⟨call, found, returned⟩ := confirmed index got
    obtain ⟨inside, -⟩ := List.getElem?_eq_some_iff.mp found
    refine ⟨call, ?_, returned⟩
    rw [← found]
    exact List.getElem?_append_left inside
  unfold PtyInput.begin at got
  dsimp only at got
  split at got
  next empty =>
    rw [Bool.and_eq_true, List.isEmpty_iff] at empty
    rcases List.mem_append.mp got with got | fresh
    · exact earlier got
    · rw [List.mem_singleton, Prod.mk.injEq] at fresh
      refine ⟨_, fresh.1 ▸ List.getElem?_concat_length, ?_, ?_⟩
      · dsimp only
        rw [if_pos empty.2]
      · show bytesOf (input.accepted.take input.accepted.length) <+:
          input.written.take input.flushed
        simp only [List.take_length, roomy empty.2 empty.1, List.prefix_rfl]
  · exact earlier got

theorem Confirmed.moves (moved : input.Moves after) : after.Confirmed := by
  obtain ⟨index, call, phase, queued, found, progress, -, rfl⟩ := moved
  intro position got
  obtain ⟨other, located, returned⟩ := confirmed position got
  refine ⟨other, ?_, returned⟩
  have different : index ≠ position := by
    rintro rfl
    rw [found] at located
    cases located
    exact progress _ returned.1
  rw [← located]
  exact List.getElem?_set_ne different

theorem Confirmed.admitted
    (records : input.Records)
    (found : input.calls[index]? = some call)
    (phase : call.phase = .sending) :
    (input.admitted index call).Confirmed := by
  intro position got
  obtain ⟨other, located, returned, done⟩ := confirmed position got
  refine ⟨other, ?_, returned, ?_⟩
  · have different : index ≠ position := by
      rintro rfl
      rw [found] at located
      cases located
      rw [phase] at returned
      cases returned
    rw [← located]
    exact List.getElem?_set_ne different
  · show bytesOf ((input.accepted ++ [_]).take _) <+: _
    rw [List.take_append_of_le_length
      (records.within position other located)]
    exact done

/-- A step of the worker confirms a message only when it and all ahead of it
are flushed. -/
theorem Confirmed.workerStep
    (records : input.Records)
    (stream : input.Stream)
    (stepped : WorkerStep input event after) : after.Confirmed := by
  cases stepped with
  | receive | settle | stop => exact confirmed
  | @write message taken result writing =>
      intro index got
      obtain ⟨call, found, returned, done⟩ := confirmed index got
      refine ⟨call, found, returned, done.trans ?_⟩
      cases result with
      | ok finished =>
          show _ <+: (input.written ++ message.bytes).take
            (input.written ++ message.bytes).length
          rw [List.take_of_length_le (Nat.le_refl _)]
          exact (List.take_prefix _ _).trans (List.prefix_append _ _)
      | error text =>
          show _ <+: (input.written ++ message.bytes.take taken).take
            input.flushed
          simp only [List.take_append_of_le_length stream.flushed,
            List.prefix_rfl]
  | @complete message result completing =>
      intro index got
      unfold completed at got
      dsimp only at got
      split at got
      next asked =>
        rcases List.mem_append.mp got with got | fresh
        · exact confirmed index got
        · rw [List.mem_singleton, Prod.mk.injEq] at fresh
          obtain ⟨rfl, done⟩ := fresh
          obtain ⟨front, handled⟩ := stream.last message result
            (.inr completing)
          have sound := stream.sound (by rw [completing, ← done]; rfl)
          have parts := stream.parts
          rw [completing, handled] at parts
          have located : input.accepted[front.length]? = some message := by
            rw [parts]
            simp [Worker.unwritten]
          obtain ⟨call, found, returned, position⟩ :=
            records.sent front.length message located
          refine ⟨call, found, returned, ?_⟩
          show bytesOf (input.accepted.take call.position) <+:
            input.written.take input.flushed
          have whole : input.accepted.take call.position = input.handled := by
            rw [position, handled, parts, List.append_assoc]
            exact List.take_left' (by simp)
          simp only [whole, sound.2, List.take_length, sound.1,
            List.prefix_rfl]
      · exact confirmed index got

end

/-- One step keeps what was confirmed. -/
theorem Confirmed.step
    {event : Event}
    (confirmed : input.Confirmed)
    (records : input.Records)
    (stream : input.Stream)
    (roomy : input.Roomy event)
    (stepped : Step input event after) : after.Confirmed := by
  rcases step_outcome stepped with ⟨bytes, completion, rfl, rfl⟩ | moved |
      ⟨index, call, found, phase, -, rfl⟩ | worked
  · exact confirmed.begin roomy
  · exact confirmed.moves moved
  · exact confirmed.admitted records found phase
  · exact confirmed.workerStep records stream worked

end

/-! ## Calls behind the stop -/

/-- A call behind the stop is on its way to the answer that the PTY is gone,
or has it. -/
structure Informed (input : PtyInput) (call : Call) : Prop where
  stopped : input.worker.isStopped = true
  releasing : ∀ kind, call.phase = .releasing kind → kind = .brokenPipe
  returned : ∀ result, call.phase = .returned result →
    call.bytes ≠ [] → call.bytes.length ≤ inputQueueBytes →
      result = .error .brokenPipe

/-- Every call behind the stop is informed. -/
def Reported (input : PtyInput) : Prop :=
  ∀ (index : Nat) (call : Call), input.calls[index]? = some call →
    call.afterStop = true → input.Informed call

section

variable {input after : PtyInput} {index : Nat} {call : Call}

theorem Reported.begin
    (reported : input.Reported)
    (bytes : Bytes)
    (completion : Bool) : (input.begin bytes completion).Reported := by
  intro position other located late
  rcases getElem?_concat_cases located with ⟨-, rfl⟩ | located
  · refine ⟨late, ?_, ?_⟩
    · intro kind releasing
      dsimp only at releasing
      split_ifs at releasing
    · intro result returned sends fits
      dsimp only at returned sends fits
      rw [if_neg sends, if_neg (Nat.not_lt.mpr fits)] at returned
      cases returned
  · obtain ⟨stopped, releasing, returned⟩ :=
      reported position other located late
    exact ⟨stopped, releasing, returned⟩

/-- Another phase keeps the report if a late call is informed in it. -/
theorem Reported.moved
    {phase : Phase}
    {queued : Nat}
    (reported : input.Reported)
    (found : input.calls[index]? = some call)
    (informed : call.afterStop = true → input.Informed call →
      input.Informed { call with phase := phase }) :
    Reported { input.moved index call phase with queuedBytes := queued } := by
  intro position other located late
  rcases getElem?_set_cases located with ⟨-, rfl⟩ | ⟨-, located⟩
  · obtain ⟨stopped, releasing, returned⟩ :=
      informed late (reported index call found late)
    exact ⟨stopped, releasing, returned⟩
  · obtain ⟨stopped, releasing, returned⟩ :=
      reported position other located late
    exact ⟨stopped, releasing, returned⟩

theorem Reported.loaded
    (reported : input.Reported)
    (found : input.calls[index]? = some call)
    (roomy : call.afterStop = true →
      input.queuedBytes + call.bytes.length ≤ inputQueueBytes) :
    (input.loaded index call).Reported := by
  unfold PtyInput.loaded
  split
  next full =>
    exact reported.moved found fun late _ =>
      absurd (roomy late) (Nat.not_le.mpr full)
  · exact reported.moved found fun _ informed =>
      ⟨informed.stopped, (fun _ releasing => by cases releasing),
        fun _ returned => by cases returned⟩

/-- A worker that has stopped takes no step. -/
theorem isStopped_of_workerStep
    (stepped : WorkerStep input event after) :
    input.worker.isStopped = false := by
  cases stepped with
  | receive receiving => rw [receiving]; rfl
  | write writing => rw [writing]; rfl
  | settle settling => rw [settling]; rfl
  | complete completing => rw [completing]; rfl
  | stop leaving => rw [leaving]; rfl

theorem calls_of_workerStep
    (stepped : WorkerStep input event after) : after.calls = input.calls := by
  cases stepped <;> rfl

/-- One step keeps the calls behind the stop informed. -/
theorem Reported.step
    {event : Event}
    (reported : input.Reported)
    (roomy : input.Roomy event)
    (stepped : Step input event after) : after.Reported := by
  cases stepped with
  | call bytes completion => exact reported.begin bytes completion
  | load found phase => exact reported.loaded found (roomy _ found)
  | exchange found phase =>
      unfold exchanged
      split
      · exact reported.moved found fun _ informed =>
          ⟨informed.stopped, (fun _ releasing => by cases releasing),
            fun _ returned => by cases returned⟩
      · exact reported.loaded found (roomy _ found)
  | trySend found phase =>
      unfold offered
      split_ifs with stopped
      · refine reported.moved found fun _ informed =>
          ⟨informed.stopped, fun kind releasing => ?_,
            fun _ returned => by cases returned⟩
        cases releasing
        rfl
      · exact reported.moved found fun _ informed =>
          absurd informed.stopped stopped
      · intro position other located late
        rcases getElem?_set_cases located with ⟨-, rfl⟩ | ⟨-, located⟩
        · exact absurd (reported _ _ found late).stopped stopped
        · exact absurd (reported position other located late).stopped stopped
  | release found phase =>
      refine reported.moved found fun _ informed =>
        ⟨informed.stopped, (fun _ releasing => by cases releasing),
          fun result returned _ _ => ?_⟩
      cases returned
      rw [informed.releasing _ phase]
  | worker worked =>
      intro position other located late
      rw [calls_of_workerStep worked] at located
      have stopped := (reported position other located late).stopped
      rw [isStopped_of_workerStep worked] at stopped
      cases stopped

end

/-! ## All laws -/

/-- The invariants of a run whose steps all meet the condition. -/
structure Sound (input : PtyInput) : Prop where
  counter : input.Counter
  stream : input.Stream
  records : input.Records
  confirmed : input.Confirmed
  reported : input.Reported

theorem Sound.reachable
    {input : PtyInput}
    (reachable : machine.Reachable Roomy input) : input.Sound := by
  refine reachable.invariant ?_ ?_
  · rintro _ rfl
    exact ⟨.initial, .initial, .initial, (fun _ got => by cases got),
      (fun _ _ found => by cases found)⟩
  · intro before event after sound roomy stepped
    have stepped := step_of_next stepped
    exact ⟨sound.counter.step stepped, sound.stream.step stepped,
      sound.records.step stepped,
      sound.confirmed.step sound.records sound.stream roomy stepped,
      sound.reported.step roomy stepped⟩

/-- The invariants give the laws. -/
theorem Sound.laws {input : PtyInput} (sound : input.Sound) : input.Laws where
  ordered := sound.stream.ordered
  once := by
    rw [List.nodup_iff_getElem?_ne_getElem?]
    intro first second before inside same
    rw [List.length_map] at inside
    obtain ⟨message, located⟩ : ∃ message,
        input.accepted[first]? = some message :=
      ⟨_, List.getElem?_eq_getElem (Nat.lt_trans before inside)⟩
    obtain ⟨other, found⟩ : ∃ message,
        input.accepted[second]? = some message :=
      ⟨_, List.getElem?_eq_getElem inside⟩
    rw [List.getElem?_map, List.getElem?_map, located, found] at same
    have caller : message.call = other.call := Option.some.inj same
    obtain ⟨one, sent, -, position⟩ :=
      sound.records.sent first message located
    obtain ⟨two, again, -, place⟩ := sound.records.sent second other found
    rw [caller, again] at sent
    cases sent
    omega
  confirmed := by
    intro index call got found
    obtain ⟨other, located, -, done⟩ := sound.confirmed index got
    rw [found] at located
    cases located
    exact done
  refused := by
    rintro index call kind found returned message member rfl
    obtain ⟨position, located⟩ := List.mem_iff_getElem?.mp member
    obtain ⟨other, same, success, -⟩ :=
      sound.records.sent position message located
    rw [found] at same
    cases same
    rw [returned] at success
    cases success
  kept := sound.records.kept
  counted := sound.counter.counted
  bounded := sound.counter.bounded
  reported := fun index call result found late sends fits returned =>
    (sound.reported index call found late).returned result returned sends fits

/-- Where a step does not meet the condition, a law is broken behind it. -/
theorem Sound.roomy_of_laws
    {input after : PtyInput}
    (sound : input.Sound)
    (stepped : Step input event after)
    (laws : after.Laws) : input.Roomy event := by
  have room {index : Nat} {call : Call}
      (found : input.calls[index]? = some call)
      (progress : ∀ result, call.phase ≠ .returned result)
      (laws : (input.loaded index call).Laws)
      (other : Call)
      (located : input.calls[index]? = some other)
      (late : other.afterStop = true) :
      input.queuedBytes + other.bytes.length ≤ inputQueueBytes := by
    rw [found] at located
    cases located
    by_contra full
    unfold loaded at laws
    rw [if_pos (Nat.lt_of_not_le full)] at laws
    obtain ⟨sends, fits⟩ :=
      sound.counter.admissible index call found progress
    have wrong := laws.reported index _ _ (getElem?_set_found found _) late
      sends fits rfl
    cases wrong
  cases stepped with
  | call bytes completion =>
      intro empty asked
      have flushed : bytesOf (input.accepted.take input.accepted.length) <+:
          input.written.take input.flushed :=
        laws.confirmed input.calls.length _ (by simp [begin, empty, asked])
          List.getElem?_concat_length
      rw [List.take_length] at flushed
      have ordered := (List.take_prefix input.flushed _).trans
        sound.stream.ordered
      exact flushed.eq_of_length
        (Nat.le_antisymm flushed.length_le ordered.length_le)
  | load found phase =>
      exact room found (fun result => by rw [phase]; nofun) laws
  | @exchange index queued spurious call found phase =>
      unfold exchanged at laws
      split at laws
      next same =>
        intro other located late
        rw [found] at located
        cases located
        rw [same.1]
        exact sound.counter.fits index call queued found phase
      · exact room found (fun result => by rw [phase]; nofun) laws
  | trySend => trivial
  | release => trivial
  | worker worked => cases worked <;> trivial

/-- A run in which the worker stops with almost all of the counter held by a
message that it never takes. -/
def stoppedRun (large : Bytes) : List Event :=
  [.call [1] false, .load 0, .exchange 0 false, .trySend 0,
    .call large false, .load 1, .exchange 1 false, .trySend 1,
    .receive, .write 0 (.error "Input/output error (os error 5)"), .settle,
    .complete, .stop, .call [2, 2] false, .load 2]

end PtyInput

end Pty
end Vvmux
