import Mathlib.Algebra.Order.Ring.Nat
import Mathlib.Data.List.Pairwise
import Vvmux.Library.ChangeLog
import Vvmux.Library.Machine

/-!
# Frames and their acknowledgements

The session sends frames to the attached client, a few at a time, and learns
from cumulative acknowledgements which of them are on the screen.  The fields
marked as history are not in the source, and no function reads them.
-/

namespace Vvmux

open Library

namespace Rendering

/-- `MAX_UNACKNOWLEDGED_FRAMES` -/
def maxUnacknowledgedFrames : Nat := 8

/-- How many frames are remembered with their sequences. -/
def frameSequenceLimit : Nat := 1024

/-- `wrapping_add` of `u64` counters. -/
def wrappingAdd (left right : Nat) : Nat := (left + right) % 2 ^ 64

/-- The parts of `AttachedClient` that frames touch. -/
structure FrameClient where
  id : Nat
  acknowledgedFrame : Nat
  renderedSessionSequence : Nat
  frameSequences : List (Nat × Nat)
  /-- History: the frames sent since the client attached, each with the
  session sequence at which it was composed. -/
  sent : List (Nat × Nat)
  /-- History: the acknowledgements that were accepted, each with the number
  of the last frame at that time. -/
  acknowledgements : List (Nat × Nat)
  /-- History: the frames that the client had not acknowledged when it asked
  for a resync. -/
  discarded : List Nat
deriving DecidableEq

/-- The parts of `SessionActor` that frames touch. -/
structure FrameActor where
  attached : Option FrameClient
  frameId : Nat
  sessionSequence : Nat
  pendingRender : Bool
  forceFull : Bool
deriving DecidableEq

namespace FrameActor

def start :
    FrameActor where
  attached := none
  frameId := 0
  sessionSequence := 1
  pendingRender := true
  forceFull := true

/-- `Attach`: a client that is there is kept unless it is to be replaced. -/
def attach (actor : FrameActor) (id : Nat) (replace : Bool) : FrameActor :=
  if actor.attached.isSome && !replace then actor
  else
    { actor with
      attached := some
        { id := id
          acknowledgedFrame := actor.frameId
          renderedSessionSequence := 0
          frameSequences := []
          sent := []
          acknowledgements := []
          discarded := [] }
      forceFull := true
      pendingRender := true }

/-- The loop of `RenderAck`. -/
def popAcknowledged
    (frame : Nat) :
    Nat → List (Nat × Nat) → Nat × List (Nat × Nat)
  | rendered, [] => (rendered, [])
  | rendered, (sent, sequence) :: rest =>
      if frame < sent then (rendered, (sent, sequence) :: rest)
      else popAcknowledged frame (max rendered sequence) rest

/-- What an acknowledgement in the window does to its client. -/
def acknowledge (client : FrameClient) (frame latest : Nat) : FrameClient :=
  let popped := popAcknowledged frame client.renderedSessionSequence
    client.frameSequences
  { client with
    acknowledgedFrame := frame
    renderedSessionSequence := popped.1
    frameSequences := popped.2
    acknowledgements := (frame, latest) :: client.acknowledgements }

/-- `RenderAck` -/
def renderAck (actor : FrameActor) (id frame : Nat) : FrameActor :=
  match actor.attached with
  | none => actor
  | some client =>
      if client.id ≠ id then actor
      else if frame < client.acknowledgedFrame ∨ actor.frameId < frame then
        { actor with forceFull := true }
      else
        { actor with
          attached := some (acknowledge client frame actor.frameId) }

/-- `RenderResync` -/
def renderResync (actor : FrameActor) (id : Nat) : FrameActor :=
  match actor.attached with
  | none => actor
  | some client =>
      if client.id ≠ id then actor
      else
        { actor with
          attached := some
            { client with
              acknowledgedFrame := actor.frameId
              frameSequences := []
              discarded := ((client.sent.filter fun frame =>
                client.acknowledgedFrame < frame.1).map Prod.fst) ++
                  client.discarded }
          forceFull := true
          pendingRender := true }

/-- A frame that reached the wire. -/
def recordFrame (client : FrameClient) (frame sequence : Nat) : FrameClient :=
  { client with
    frameSequences := keepLast frameSequenceLimit
      (client.frameSequences ++ [(frame, sequence)])
    sent := client.sent ++ [(frame, sequence)] }

@[simp] theorem recordFrame_acknowledgedFrame
    (client : FrameClient)
    (frame sequence : Nat) :
    (recordFrame client frame sequence).acknowledgedFrame =
      client.acknowledgedFrame := by
  simp only [recordFrame]

/-- `render`, and whether its frame reaches the wire. -/
def render (actor : FrameActor) (sent : Bool) : FrameActor :=
  match actor.attached with
  | none => { actor with pendingRender := false }
  | some client =>
      if maxUnacknowledgedFrames ≤
          actor.frameId - client.acknowledgedFrame then
        { actor with pendingRender := true }
      else
        let frame := wrappingAdd actor.frameId 1
        { actor with
          frameId := frame
          attached :=
            if sent then some (recordFrame client frame actor.sessionSequence)
            else none
          pendingRender := false
          forceFull := false }

/-- `Detach` and `Disconnected`: the client that is attached goes. -/
def detach (actor : FrameActor) (id : Nat) : FrameActor :=
  match actor.attached with
  | none => actor
  | some client => if client.id = id then { actor with attached := none } else actor

end FrameActor

inductive FrameEvent where
  /-- Panes, tabs or their contents change, so often. -/
  | change (times : Nat)
  | attach (id : Nat) (replace : Bool)
  | render (sent : Bool)
  | renderAck (id frame : Nat)
  | renderResync (id : Nat)
  | detach (id : Nat)
deriving DecidableEq

def frameStep
    (actor : FrameActor) :
    FrameEvent → FrameActor
  | .change times =>
      { actor with
        sessionSequence := wrappingAdd actor.sessionSequence times
        pendingRender := true }
  | .attach id replace => actor.attach id replace
  | .render sent => actor.render sent
  | .renderAck id frame => actor.renderAck id frame
  | .renderResync id => actor.renderResync id
  | .detach id => actor.detach id

def frameMachine :
    Machine FrameActor FrameEvent where
  initial actor := actor = .start
  step before event after := after = frameStep before event

/-- The frame counter does not wrap around. -/
def countsOn
    (actor : FrameActor) :
    FrameEvent → Prop
  | .render _ => actor.frameId + 1 < 2 ^ 64
  | _ => True

/-! ## The window -/

/-- The client acknowledged a frame of this sequence or a later one, the frame
itself or one after it. -/
def FrameClient.Showed (client : FrameClient) (sequence : Nat) : Prop :=
  ∃ frame ∈ client.sent, frame.1 ∉ client.discarded ∧
    sequence ≤ frame.2 ∧
    ∃ acknowledged ∈ client.acknowledgements,
      frame.1 ≤ acknowledged.1 ∧ acknowledged.1 ≤ acknowledged.2

/-- What holds of the attached client while the last frame has a number. -/
structure FrameClient.InWindow
    (client : FrameClient)
    (latest : Nat) : Prop where
  window : client.acknowledgedFrame ≤ latest ∧
    latest ≤ client.acknowledgedFrame + maxUnacknowledgedFrames
  sent : ∀ frame ∈ client.sent, frame.1 ≤ latest
  outstanding : ∀ frame ∈ client.frameSequences, frame ∈ client.sent ∧
    client.acknowledgedFrame < frame.1
  ascending : client.frameSequences.Pairwise fun first second =>
    first.1 < second.1
  discarded : ∀ frame ∈ client.discarded, frame ≤ client.acknowledgedFrame
  rendered : client.renderedSessionSequence = 0 ∨
    ∃ frame ∈ client.sent, frame.1 ∉ client.discarded ∧
      frame.1 ≤ client.acknowledgedFrame ∧
      client.renderedSessionSequence ≤ frame.2 ∧
      ∃ acknowledged ∈ client.acknowledgements,
        frame.1 ≤ acknowledged.1 ∧ acknowledged.1 ≤ acknowledged.2

/-- A client that has just attached. -/
theorem inWindow_attach
    (id latest : Nat) :
    FrameClient.InWindow
      { id := id
        acknowledgedFrame := latest
        renderedSessionSequence := 0
        frameSequences := []
        sent := []
        acknowledgements := []
        discarded := [] }
      latest where
  window := ⟨le_refl _, Nat.le_add_right _ _⟩
  sent := fun _ here => nomatch here
  outstanding := fun _ here => nomatch here
  ascending := List.Pairwise.nil
  discarded := fun _ here => nomatch here
  rendered := .inl rfl

/-- What the loop leaves is beyond the acknowledged frame, and what it counts
as rendered comes from frames up to it. -/
theorem popAcknowledged_spec
    (frame rendered : Nat)
    (frames : List (Nat × Nat))
    (ascending : frames.Pairwise fun first second => first.1 < second.1) :
    (FrameActor.popAcknowledged frame rendered frames).2.Sublist frames ∧
      (∀ left ∈ (FrameActor.popAcknowledged frame rendered frames).2,
        frame < left.1) ∧
      ((FrameActor.popAcknowledged frame rendered frames).1 = rendered ∨
        ∃ popped ∈ frames, popped.1 ≤ frame ∧
          (FrameActor.popAcknowledged frame rendered frames).1 =
            popped.2) := by
  induction frames generalizing rendered with
  | nil => exact ⟨List.Sublist.refl _, fun _ here => (nomatch here), .inl rfl⟩
  | cons first rest ih =>
      obtain ⟨sent, sequence⟩ := first
      obtain ⟨below, later⟩ := List.pairwise_cons.mp ascending
      unfold FrameActor.popAcknowledged
      split
      · rename_i beyond
        refine ⟨List.Sublist.refl _, fun left here => ?_, .inl rfl⟩
        rcases List.mem_cons.mp here with same | after
        · rw [same]
          exact beyond
        · exact lt_trans beyond (below left after)
      · rename_i reached
        obtain ⟨sublist, beyond, counted⟩ :=
          ih (max rendered sequence) later
        refine ⟨sublist.cons _, beyond, ?_⟩
        rcases counted with same | ⟨popped, here, upTo, same⟩
        · rcases max_choice rendered sequence with old | new
          · exact .inl (same.trans old)
          · exact .inr ⟨(sent, sequence), List.mem_cons_self,
              Nat.le_of_not_lt reached, same.trans new⟩
        · exact .inr ⟨popped, List.mem_cons_of_mem _ here, upTo, same⟩

variable {client : FrameClient} {latest : Nat}

/-- An acknowledgement in the window moves it on. -/
theorem FrameClient.InWindow.acknowledge
    {latest frame : Nat}
    (inside : client.InWindow latest)
    (low : client.acknowledgedFrame ≤ frame)
    (high : frame ≤ latest) :
    (FrameActor.acknowledge client frame latest).InWindow latest := by
  obtain ⟨sublist, beyond, counted⟩ := popAcknowledged_spec frame
    client.renderedSessionSequence client.frameSequences inside.ascending
  have reach := inside.window.2
  exact
    { window := ⟨high, reach.trans (Nat.add_le_add_right low _)⟩
      sent := inside.sent
      outstanding := fun left here =>
        ⟨(inside.outstanding left (sublist.subset here)).1, beyond left here⟩
      ascending := inside.ascending.sublist sublist
      discarded := fun gone here => (inside.discarded gone here).trans low
      rendered := by
        rcases counted with same | ⟨popped, here, upTo, same⟩
        · rcases inside.rendered with nothing | earlier
          · exact .inl (same.trans nothing)
          · obtain ⟨shown, sent, kept, upTo, counts, acknowledged, listed,
              fits⟩ := earlier
            exact .inr ⟨shown, sent, kept, upTo.trans low,
              same.le.trans counts, acknowledged,
              List.mem_cons_of_mem _ listed, fits⟩
        · obtain ⟨sent, after⟩ := inside.outstanding popped here
          refine .inr ⟨popped, sent, fun gone => ?_, upTo, same.le,
            (frame, latest), List.mem_cons_self, upTo, high⟩
          have before := inside.discarded popped.1 gone
          omega }

/-- What a resync discards lies beyond what was acknowledged before. -/
theorem FrameClient.InWindow.resync
    (inside : client.InWindow latest) :
    FrameClient.InWindow
      { client with
        acknowledgedFrame := latest
        frameSequences := []
        discarded := ((client.sent.filter fun frame =>
          client.acknowledgedFrame < frame.1).map Prod.fst) ++
            client.discarded }
      latest where
  window := ⟨le_refl _, Nat.le_add_right _ _⟩
  sent := inside.sent
  outstanding := fun _ here => nomatch here
  ascending := List.Pairwise.nil
  discarded := by
    intro gone here
    rcases List.mem_append.mp here with new | old
    · obtain ⟨frame, listed, same⟩ := List.mem_map.mp new
      rw [← same]
      exact inside.sent frame (List.mem_of_mem_filter listed)
    · exact (inside.discarded gone old).trans inside.window.1
  rendered := by
    rcases inside.rendered with nothing | earlier
    · exact .inl nothing
    · obtain ⟨shown, sent, kept, upTo, counts, acknowledged⟩ := earlier
      refine .inr ⟨shown, sent, fun gone => ?_, upTo.trans inside.window.1,
        counts, acknowledged⟩
      rcases List.mem_append.mp gone with new | old
      · obtain ⟨frame, listed, same⟩ := List.mem_map.mp new
        have beyond := of_decide_eq_true (List.mem_filter.mp listed).2
        omega
      · exact kept old

/-- A frame is sent while there is room. -/
theorem FrameClient.InWindow.record
    (inside : client.InWindow latest)
    (room : latest - client.acknowledgedFrame < maxUnacknowledgedFrames)
    (sequence : Nat) :
    (FrameActor.recordFrame client (latest + 1) sequence).InWindow
      (latest + 1) := by
  have reach := inside.window.1
  have kept : (keepLast frameSequenceLimit
      (client.frameSequences ++ [(latest + 1, sequence)])).Sublist
        (client.frameSequences ++ [(latest + 1, sequence)]) :=
    keepLast_sublist _ _
  unfold FrameActor.recordFrame
  generalize keepLast frameSequenceLimit
    (client.frameSequences ++ [(latest + 1, sequence)]) = frames at kept
  have window : client.acknowledgedFrame ≤ latest + 1 ∧
      latest + 1 ≤ client.acknowledgedFrame + maxUnacknowledgedFrames := by
    omega
  exact
    { window := window
      sent := by
        intro frame here
        rcases List.mem_append.mp here with old | new
        · exact (inside.sent frame old).trans (Nat.le_succ _)
        · rw [List.mem_singleton.mp new]
      outstanding := by
        intro frame here
        rcases List.mem_append.mp (kept.subset here) with old | new
        · have before := inside.outstanding frame old
          exact ⟨List.mem_append_left _ before.1, before.2⟩
        · refine ⟨List.mem_append_right _ new, ?_⟩
          rw [List.mem_singleton.mp new]
          exact Nat.lt_succ_of_le reach
      ascending := by
        refine List.Pairwise.sublist kept ?_
        rw [List.pairwise_append]
        refine ⟨inside.ascending, List.pairwise_singleton _ _,
          fun first here second there => ?_⟩
        rw [List.mem_singleton.mp there]
        exact Nat.lt_succ_of_le
          (inside.sent first (inside.outstanding first here).1)
      discarded := inside.discarded
      rendered := by
        rcases inside.rendered with nothing | ⟨shown, sent, rest⟩
        · exact .inl nothing
        · exact .inr ⟨shown, List.mem_append_left _ sent, rest⟩ }

/-- The attached client, if there is one, is in its window. -/
def FrameActor.InWindow (actor : FrameActor) : Prop :=
  ∀ client ∈ actor.attached, client.InWindow actor.frameId

theorem inWindow_frameStep
    {before : FrameActor}
    {event : FrameEvent}
    (inside : before.InWindow)
    (counts : countsOn before event) : (frameStep before event).InWindow := by
  cases event with
  | change times => exact inside
  | attach id replace =>
      unfold frameStep FrameActor.attach
      dsimp only
      split
      · exact inside
      · rintro client same
        cases same
        exact inWindow_attach id before.frameId
  | render sent =>
      unfold frameStep FrameActor.render
      dsimp only
      split
      · exact inside
      · rename_i client attached
        split
        · exact inside
        · rename_i room
          have next : wrappingAdd before.frameId 1 = before.frameId + 1 :=
            Nat.mod_eq_of_lt counts
          rw [next]
          rintro other same
          dsimp only at same ⊢
          split at same
          · cases same
            exact (inside client attached).record (Nat.lt_of_not_le room) _
          · cases same
  | renderAck id frame =>
      unfold frameStep FrameActor.renderAck
      dsimp only
      split
      · exact inside
      · rename_i client attached
        split
        · exact inside
        · split
          · exact inside
          · rename_i fits
            rintro other same
            cases same
            exact (inside client attached).acknowledge (by omega) (by omega)
  | renderResync id =>
      unfold frameStep FrameActor.renderResync
      dsimp only
      split
      · exact inside
      · rename_i client attached
        split
        · exact inside
        · rintro other same
          cases same
          exact (inside client attached).resync
  | detach id =>
      unfold frameStep FrameActor.detach
      dsimp only
      split
      · exact inside
      · split
        · rintro other same
          cases same
        · exact inside

/-- While the frame counter does not wrap, the window is never left, and what
counts as rendered was acknowledged in a frame sent to this client. -/
theorem rendered_was_acknowledged
    {actor : FrameActor}
    (reached : frameMachine.Reachable countsOn actor)
    {client : FrameClient}
    (attached : actor.attached = some client) :
    (client.acknowledgedFrame ≤ actor.frameId ∧
      actor.frameId - client.acknowledgedFrame ≤ maxUnacknowledgedFrames) ∧
    ∀ sequence, 0 < sequence → sequence ≤ client.renderedSessionSequence →
      client.Showed sequence := by
  have inside : actor.InWindow := by
    refine reached.invariant ?_ ?_
    · intro start initial client same
      rw [initial] at same
      cases same
    · intro before event after holds counts stepped
      rw [stepped]
      exact inWindow_frameStep holds counts
  have window := inside client attached
  refine ⟨⟨window.window.1, by have := window.window.2; omega⟩,
    fun sequence positive counted => ?_⟩
  rcases window.rendered with nothing | earlier
  · omega
  · obtain ⟨shown, sent, kept, -, counts, acknowledged⟩ := earlier
    exact ⟨shown, sent, kept, counted.trans counts, acknowledged⟩

/-- The state after some events. -/
def followFrames (events : List FrameEvent) : FrameActor :=
  events.foldl frameStep .start

variable {actor : FrameActor}

theorem reachable_frameStep
    {guard : FrameActor → FrameEvent → Prop}
    (reached : frameMachine.Reachable guard actor)
    (event : FrameEvent)
    (allowed : guard actor event) :
    frameMachine.Reachable guard (frameStep actor event) :=
  .step reached allowed rfl

/-- A client attaches, is sent a frame after a change and acknowledges it. -/
theorem rendered_was_acknowledged_once :
    ∃ client, (followFrames
        [.attach 0 false, .change 1, .render true, .renderAck 0 1]).attached =
          some client ∧
      client.renderedSessionSequence = 2 ∧
      client.Showed 2 := by
  have reached : frameMachine.Reachable countsOn (followFrames
      [.attach 0 false, .change 1, .render true, .renderAck 0 1]) := by
    have attached : frameMachine.Reachable countsOn
        (frameStep .start (.attach 0 false)) :=
      reachable_frameStep (.initial rfl) (.attach 0 false) trivial
    have attached := reachable_frameStep attached (.change 1) trivial
    have rendered := reachable_frameStep attached (.render true)
      (show 0 + 1 < 2 ^ 64 by decide)
    exact reachable_frameStep rendered (.renderAck 0 1) trivial
  have seen : (followFrames
      [.attach 0 false, .change 1, .render true, .renderAck 0 1]).attached.map
        FrameClient.renderedSessionSequence = some 2 := by
    decide +kernel
  obtain ⟨client, attached, counted⟩ := Option.map_eq_some_iff.mp seen
  exact ⟨client, attached, counted,
    (rendered_was_acknowledged reached attached).2 2 (by decide) counted.ge⟩

theorem render_of_room
    (attached : actor.attached = some client)
    (room : actor.frameId - client.acknowledgedFrame <
      maxUnacknowledgedFrames) :
    actor.render true =
      { actor with
        frameId := wrappingAdd actor.frameId 1
        attached := some (FrameActor.recordFrame client
          (wrappingAdd actor.frameId 1) actor.sessionSequence)
        pendingRender := false
        forceFull := false } := by
  simp only [FrameActor.render, attached, if_neg (Nat.not_le_of_lt room),
    if_true]

theorem renderAck_of_inside
    {actor : FrameActor}
    {client : FrameClient}
    {frame : Nat}
    (attached : actor.attached = some client)
    (low : client.acknowledgedFrame ≤ frame)
    (high : frame ≤ actor.frameId) :
    actor.renderAck client.id frame =
      { actor with
        attached := some
          (FrameActor.acknowledge client frame actor.frameId) } := by
  have inside : ¬ (frame < client.acknowledgedFrame ∨
      actor.frameId < frame) := by
    omega
  simp only [FrameActor.renderAck, attached, ne_eq, not_true_eq_false,
    if_false, if_neg inside]

/-- A client that acknowledges every frame at once comes to every number. -/
theorem exists_frameId_eq
    (number : Nat)
    (small : number < 2 ^ 64) :
    ∃ actor client, frameMachine.Reachable (fun _ _ => True) actor ∧
      actor.attached = some client ∧ actor.frameId = number ∧
      client.acknowledgedFrame = number := by
  induction number with
  | zero =>
      exact ⟨_, _, reachable_frameStep (.initial rfl) (.attach 0 false) trivial,
        rfl, rfl, rfl⟩
  | succ number ih =>
      obtain ⟨actor, client, reached, attached, frame, acknowledged⟩ :=
        ih (by omega)
      have next : wrappingAdd actor.frameId 1 = number + 1 := by
        rw [frame]
        exact Nat.mod_eq_of_lt small
      have rendered := render_of_room attached (by
        rw [frame, acknowledged, Nat.sub_self]
        decide)
      rw [next] at rendered
      have kept := FrameActor.recordFrame_acknowledgedFrame client (number + 1)
        actor.sessionSequence
      generalize FrameActor.recordFrame client (number + 1)
        actor.sessionSequence = after at rendered kept
      have latest : (actor.render true).frameId = number + 1 :=
        congrArg FrameActor.frameId rendered
      have answered := @renderAck_of_inside (actor.render true) after
        (number + 1) (congrArg FrameActor.attached rendered)
        ((kept.trans acknowledged).le.trans (Nat.le_succ number)) latest.ge
      rw [latest] at answered
      exact ⟨_, FrameActor.acknowledge after (number + 1) (number + 1),
        reachable_frameStep (reachable_frameStep reached (.render true) trivial)
          (.renderAck after.id (number + 1)) trivial,
        congrArg FrameActor.attached answered,
        congrArg FrameActor.frameId answered, rfl⟩

/-- A client that has just attached was sent nothing, and after 2⁶⁴ frames the
counter starts again below what was acknowledged. -/
theorem window_left :
    (∃ actor client, frameMachine.Reachable (fun _ _ => True) actor ∧
      actor.attached = some client ∧ 0 ≤ client.renderedSessionSequence ∧
      ¬ client.Showed 0) ∧
    ∃ actor client, frameMachine.Reachable (fun _ _ => True) actor ∧
      actor.attached = some client ∧
      actor.frameId < client.acknowledgedFrame := by
  constructor
  · refine ⟨_, _, reachable_frameStep (.initial rfl) (.attach 0 false) trivial,
      rfl, Nat.zero_le _, ?_⟩
    rintro ⟨frame, sent, -⟩
    cases sent
  · obtain ⟨actor, client, reached, attached, frame, acknowledged⟩ :=
      exists_frameId_eq (2 ^ 64 - 1) (by decide)
    have next : wrappingAdd actor.frameId 1 = 0 := by
      rw [frame]
      decide
    have rendered := render_of_room attached (by
      rw [frame, acknowledged, Nat.sub_self]
      decide)
    rw [next] at rendered
    have kept := FrameActor.recordFrame_acknowledgedFrame client 0
      actor.sessionSequence
    generalize FrameActor.recordFrame client 0 actor.sessionSequence = after
      at rendered kept
    refine ⟨actor.render true, after,
      reachable_frameStep reached (.render true) trivial, ?_, ?_⟩
    · exact congrArg FrameActor.attached rendered
    · have latest : (actor.render true).frameId = 0 :=
        congrArg FrameActor.frameId rendered
      have below : 0 < after.acknowledgedFrame := by
        rw [kept, acknowledged]
        decide
      exact latest.trans_lt below

end Rendering
end Vvmux
