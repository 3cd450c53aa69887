import Vvmux.Projection.Region
import Vvmux.Session.PaneBijection

/-!
# Rejecting a second client

A session with a client rejects another one that does not ask to replace it.
The handler ends the pointer drag and the edit mode of the session before it
looks at who is attached, so a rejected request leaves everything as it was
exactly when there was nothing to end.
-/

namespace Vvmux
namespace Session

open Library
open Layout
open Projection

/-- The acknowledgement window of the attached client. -/
structure FlowControl where
  acknowledgedFrame : Nat
  renderedSessionSequence : Nat
  frameSequences : List (Nat × Nat)
  deriving DecidableEq

structure MediaProjectionKey where
  virtualRevision : Nat
  layoutRevision : Nat
  deriving DecidableEq, Repr

/-- What the session remembers of the media projection at its client. -/
structure MediaProjection where
  lastMediaProjection : Option MediaProjectionKey := none
  mediaProjectionRevision : Nat := 0
  outerVirtualRevision : Nat := 0
  bridgeInstanceId : Option Nat := none
  bridgeLocalRevision : Nat := 0
  outerProjectionRevision : Nat := 0
  outerApplySequence : Nat := 0
  fragmentAssignments : List ((Nat × Nat) × List (FixedRect × Nat)) := []
  lastProjectionWarning : Option MediaProjectionKey := none
  deriving DecidableEq

/-- A session with what it keeps about frames and media for its client. -/
structure ServedSession where
  actor : SessionActor
  frameId : Nat
  flow : FlowControl
  projection : MediaProjection
  deriving DecidableEq

namespace ServedSession

/-- A request to attach. What a new client is sent of the media decides on the
projection state that follows. -/
def attach
    (syncMedia : ServedSession → MediaProjection)
    (s : ServedSession)
    (id : Nat)
    (replace : Bool)
    (display : DisplayMetrics)
    (vivid : Bool) : Option ServedSession := do
  let actor ← s.actor.cancelPointerDrag true
  let actor ← actor.endFloatMode true
  if actor.attached.isSome && !replace then
    if actor.environment.sendFails then
      return { s with actor := { actor with forceFull := true } }
    else return { s with
      actor := { actor with
        sent := actor.sent ++
          [(id, .error "session already has an attached client")] } }
  else
    let actor := actor.notify (.detached "replaced by another client")
    let display := normalizedDisplay display actor.config.statusVisible
    let actor := { actor with
      lastDisplay := display
      attached := some ⟨id, display, vivid⟩ }
    let s := { s with
      actor := actor.clampFloats
      flow := ⟨s.frameId, 0, []⟩
      projection := { s.projection with
        bridgeInstanceId := none
        bridgeLocalRevision := 0
        fragmentAssignments := []
        lastProjectionWarning := none } }
    if s.actor.environment.sendFails then
      return { s with actor := { s.actor with forceFull := true } }
    else
      let actor := s.actor.notify (.attached (!vivid))
      let actor ← { actor with forceFull := true }.resizeAll
      let s := { s with actor }
      return { s with
        actor := s.actor.scheduleRender
        projection := syncMedia s }

/-- What a request leaves of a session, apart from answering the one who
asked. -/
structure Undisturbed (before after : ServedSession) (asking : Nat) : Prop where
  tabs : after.actor.tabs = before.actor.tabs
  activeTab : after.actor.activeTab = before.actor.activeTab
  panes : after.actor.panes = before.actor.panes
  pointerDrag : after.actor.pointerDrag = before.actor.pointerDrag
  floatModal : after.actor.floatModal = before.actor.floatModal
  nextFloatMode : after.actor.nextFloatMode = before.actor.nextFloatMode
  announced :
    (after.actor.sent.filter fun message => message.1 ≠ asking) =
      before.actor.sent.filter fun message => message.1 ≠ asking
  attached : after.actor.attached = before.actor.attached
  lastDisplay : after.actor.lastDisplay = before.actor.lastDisplay
  revisions :
    (after.actor.layoutRevision, after.actor.sessionSequence,
        after.actor.nextPaneId, after.actor.nextTabId) =
      (before.actor.layoutRevision, before.actor.sessionSequence,
        before.actor.nextPaneId, before.actor.nextTabId)
  pendingRender : after.actor.pendingRender = before.actor.pendingRender
  forceFull : before.actor.environment.sendFails = false →
    after.actor.forceFull = before.actor.forceFull
  flow : (after.frameId, after.flow) = (before.frameId, before.flow)
  projection : after.projection = before.projection

/-- Whatever a request to attach decides, it has ended the drag and the edit
mode. -/
theorem idle_attach
    {syncMedia : ServedSession → MediaProjection}
    {s after : ServedSession}
    {id : Nat}
    {replace : Bool}
    {display : DisplayMetrics}
    {vivid : Bool}
    (result : s.attach syncMedia id replace display vivid = some after) :
    after.actor.pointerDrag = none ∧ after.actor.floatModal = none := by
  have stable : SessionActor.Stable (fun _ => True) (fun _ => True) :=
    { sameCore := fun _ _ => trivial
      refusals := fun _ _ _ _ _ => trivial
      dropDrag := fun _ => trivial
      restoreDrag := fun _ _ => trivial
      restoreModal := fun _ _ => trivial
      erase := fun _ _ _ _ _ => trivial
      remove := fun _ _ _ _ _ => trivial }
  simp only [attach, Option.bind_eq_bind, Option.bind_eq_some_iff] at result
  obtain ⟨cancelled, cancelledEq, actor, actorEq, decided⟩ := result
  obtain ⟨_, _, noDrag⟩ := stable.cancelPointerDrag trivial cancelledEq
  obtain ⟨_, calm, noMode⟩ := stable.endFloatMode trivial actorEq
  have idle := calm.drag noDrag
  have notified := (SessionActor.sameCore_notify actor
    (.detached "replaced by another client")).idle
  generalize actor.notify (.detached "replaced by another client") = told
    at decided notified
  split_ifs at decided with rejected fails failsNow
  · cases decided
    exact ⟨idle, noMode⟩
  · cases decided
    exact ⟨idle, noMode⟩
  · cases decided
    exact ⟨notified.1 idle, notified.2 noMode⟩
  · obtain ⟨resized, resizedEq, rest⟩ := Option.bind_eq_some_iff.mp decided
    obtain ⟨_, settled⟩ := stable.resizeAll _ _ trivial resizedEq
    rw [Option.pure_def, Option.some.injEq] at rest
    subst rest
    -- The answer to the new client changes neither of them.
    exact ⟨settled.drag ((SessionActor.sameCore_notify _ _).idle.1
        (notified.1 idle)),
      settled.modal ((SessionActor.sameCore_notify _ _).idle.2
        (notified.2 noMode))⟩

/-- A rejected request to attach leaves the session undisturbed exactly when
neither a pointer drag nor an edit mode is in progress. -/
theorem undisturbed_iff
    {syncMedia : ServedSession → MediaProjection}
    {s : ServedSession}
    {client : AttachedClient}
    (attached : s.actor.attached = some client)
    (id : Nat)
    (display : DisplayMetrics)
    (vivid : Bool) :
    (∃ after, s.attach syncMedia id false display vivid = some after ∧
        Undisturbed s after id) ↔
      s.actor.pointerDrag = none ∧ s.actor.floatModal = none := by
  constructor
  · rintro ⟨after, result, same⟩
    obtain ⟨noDrag, noMode⟩ := idle_attach result
    exact ⟨same.pointerDrag.symm.trans noDrag, same.floatModal.symm.trans noMode⟩
  · rintro ⟨noDrag, noMode⟩
    have noCancel : s.actor.cancelPointerDrag true = some s.actor := by
      rw [SessionActor.cancelPointerDrag, SessionActor.cancelPointerDragWith,
        noDrag]
    have noEnd : s.actor.endFloatMode true = some s.actor := by
      rw [SessionActor.endFloatMode, SessionActor.endFloatModeWith, noMode]
    simp only [attach, noCancel, noEnd, attached, Option.bind_eq_bind,
      Option.bind_some, Option.isSome_some, Bool.not_false, Bool.and_self,
      if_true, Option.pure_def]
    split_ifs with fails
    · exact ⟨_, rfl, rfl, rfl, rfl, rfl, rfl, rfl, rfl, attached.symm, rfl,
        rfl, rfl,
        fun sent => absurd (fails.symm.trans sent) (by decide), rfl, rfl⟩
    · exact ⟨_, rfl, rfl, rfl, rfl, rfl, rfl, rfl, by simp, attached.symm, rfl,
        rfl, rfl, fun _ => rfl, rfl, rfl⟩

theorem undisturbed_iff_plainStart :
    (∃ after,
        (⟨{ SessionActor.plainStart with
            attached := some ⟨1, ⟨80, 24, 0, 0⟩, false⟩ },
          0, ⟨0, 0, []⟩, {}⟩ : ServedSession).attach
            ServedSession.projection 2 false ⟨100, 30, 0, 0⟩ false =
          some after ∧
        Undisturbed
          ⟨{ SessionActor.plainStart with
              attached := some ⟨1, ⟨80, 24, 0, 0⟩, false⟩ },
            0, ⟨0, 0, []⟩, {}⟩ after 2) ↔
      SessionActor.plainStart.pointerDrag = none ∧
        SessionActor.plainStart.floatModal = none :=
  undisturbed_iff rfl 2 ⟨100, 30, 0, 0⟩ false

/-- The client of a session splits its pane and presses on the border between
the two. -/
def borderPressed : List (Environment × ActorEvent) :=
  [({}, .client 1 (.attach false ⟨80, 24, 0, 0⟩ false)),
    ({}, .client 1 (.action (.split .vertical))),
    ({}, .client 1 (.mouse ⟨0, 40, 5, .press, false⟩))]

/-- A rejected client ends the drag of the one that is attached. -/
theorem disturbed_by_attach :
    ∃ actor client, sessionMachine.Reachable (fun _ _ => True) actor ∧
      actor.attached = some client ∧ client.id ≠ 2 ∧
      ∀ syncMedia frameId flow projection display vivid,
        ¬ ∃ after,
          (⟨actor, frameId, flow, projection⟩ : ServedSession).attach
              syncMedia 2 false display vivid = some after ∧
            Undisturbed ⟨actor, frameId, flow, projection⟩ after 2 := by
  have pressed : (runEvents SessionActor.plainStart borderPressed).any
      fun s => (s.attached.any fun client => client.id == 1) &&
        s.pointerDrag.isSome := by
    decide +kernel
  obtain ⟨actor, result, holds⟩ := (Option.any_eq_true ..).mp pressed
  rw [Bool.and_eq_true] at holds
  obtain ⟨served, dragged⟩ := holds
  obtain ⟨client, attached, isFirst⟩ := (Option.any_eq_true ..).mp served
  refine ⟨actor, client,
    reachable_runEvents (.initial SessionActor.initial_plainStart) result,
    attached, ?_, ?_⟩
  · rw [beq_iff_eq.mp isFirst]
    decide
  · rintro syncMedia frameId flow projection display vivid
      ⟨after, handled, same⟩
    have noDrag : actor.pointerDrag = none :=
      same.pointerDrag.symm.trans (idle_attach handled).1
    rw [noDrag] at dragged
    cases dragged

end ServedSession

end Session
end Vvmux
