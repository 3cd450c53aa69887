import Vvmux.Automation.OneReply

/-!
# When the session looks at its waiters again

The actor sleeps until the next event, or until some waiter may have its
answer by the passing of time alone.  Only a waiter for a stable screen gains
its answer so, and its deadline looks at the quiet time and not at whether the
screen is a newer one.
-/

namespace Vvmux

open Library

namespace Automation

open Layout (PaneId)

/-! ## The deadline -/

/-- When the quiet time of a waiter for a stable screen is over. -/
def Waiter.stableReady
    (waiter : Waiter)
    (panes : OrderedMap PaneId Pane) : Option Nat :=
  match waiter.kind, waiter.paneId with
  | .screenStable quiet _, some pane =>
      (panes.find? pane).map fun pane => pane.lastScreenChange + quiet
  | _, _ => none

/-- When a waiter is to be looked at. -/
def Waiter.due (waiter : Waiter) (panes : OrderedMap PaneId Pane) : Nat :=
  match waiter.stableReady panes with
  | some ready => min ready waiter.deadline
  | none => waiter.deadline

namespace AutomationActor

/-- `next_automation_deadline`: a second where nothing waits. -/
def nextAutomationDeadline (actor : AutomationActor) (now : Nat) : Nat :=
  ((actor.automationWaiters.map fun waiter =>
    waiter.due actor.panes - now).min?).getD 1000

/-- A waiter that a check leaves where it is. -/
def stays
    (actor : AutomationActor)
    (outside : Outside)
    (now : Nat)
    (waiter : Waiter) : Bool :=
  decide (now < waiter.deadline) &&
    (waiterResult outside now actor.panes actor.exitTombstones
      waiter).isNone

/-- A waiter has an answer at a time, or its deadline has passed. -/
def EndsBy
    (actor : AutomationActor)
    (outside : Outside)
    (time : Nat)
    (waiter : Waiter) : Prop :=
  waiter.deadline ≤ time ∨
    (waiterResult outside time actor.panes actor.exitTombstones
      waiter).isSome = true

/-- The actor does not wake before some time has passed, and not behind the
first time at which a waiter ends without an event. -/
structure Schedules
    (actor : AutomationActor)
    (outside : Outside)
    (now : Nat) : Prop where
  positive : 0 < actor.nextAutomationDeadline now
  punctual : ∀ waiter ∈ actor.automationWaiters, ∀ time, now < time →
    actor.EndsBy outside time waiter →
      actor.nextAutomationDeadline now ≤ time - now

/-- Before a check no waiter for a newer stable screen, not yet due, has its
pane quiet for long enough on a screen that is not newer. -/
def NoStaleQuiet (actor : AutomationActor) (now : Nat) : Prop :=
  ∀ waiter ∈ actor.automationWaiters, now < waiter.deadline →
    ∀ quiet sequence paneId pane,
      waiter.kind = .screenStable quiet (some sequence) →
      waiter.paneId = some paneId →
      actor.panes.find? paneId = some pane →
      pane.screenSequence ≤ sequence →
        now < pane.lastScreenChange + quiet

/-! ## What a check leaves -/

theorem replyAutomation_frame
    (actor : AutomationActor)
    (target : ReplyTarget)
    (result : AutomationResult) :
    (actor.replyAutomation target result).automationWaiters =
        actor.automationWaiters ∧
      (actor.replyAutomation target result).panes = actor.panes ∧
      (actor.replyAutomation target result).exitTombstones =
        actor.exitTombstones := by
  unfold replyAutomation sendAutomationResponse
  obtain ⟨requests, finished⟩ := finishAutomationRequest_eq actor
    target.clientId target.requestId
  rw [finished]
  dsimp only
  split
  · exact ⟨rfl, rfl, rfl⟩
  · exact ⟨rfl, rfl, rfl⟩

/-- One turn of a check. -/
theorem checkWaiter_eq
    (outside : Outside)
    (now : Nat)
    (actor : AutomationActor)
    (waiter : Waiter) :
    (checkWaiter outside now actor waiter).automationWaiters =
        actor.automationWaiters ++
          [waiter].filter (actor.stays outside now) ∧
      (checkWaiter outside now actor waiter).panes = actor.panes ∧
      (checkWaiter outside now actor waiter).exitTombstones =
        actor.exitTombstones := by
  unfold checkWaiter
  split
  next past =>
    rw [(replyAutomation_frame _ _ _).1]
    refine ⟨?_, (replyAutomation_frame _ _ _).2⟩
    simp [stays, Nat.not_lt.mpr past]
  next early =>
    split
    next result answered =>
      rw [(replyAutomation_frame _ _ _).1]
      refine ⟨?_, (replyAutomation_frame _ _ _).2⟩
      simp [stays, answered]
    next unanswered =>
      refine ⟨?_, rfl, rfl⟩
      simp [stays, unanswered, Nat.lt_of_not_le early]

/-- A check leaves the waiters that stay, and the panes as they are. -/
theorem checkAutomationWaiters_eq
    (actor : AutomationActor)
    (outside : Outside)
    (now : Nat) :
    (actor.checkAutomationWaiters outside now).automationWaiters =
        actor.automationWaiters.filter (actor.stays outside now) ∧
      (actor.checkAutomationWaiters outside now).panes = actor.panes ∧
      (actor.checkAutomationWaiters outside now).exitTombstones =
        actor.exitTombstones := by
  -- By induction over the waiters that are still to be looked at.
  have loop : ∀ (waiters : List Waiter) (before : AutomationActor),
      before.panes = actor.panes →
      before.exitTombstones = actor.exitTombstones →
      let after := waiters.foldl (checkWaiter outside now) before
      after.automationWaiters = before.automationWaiters ++
          waiters.filter (actor.stays outside now) ∧
        after.panes = actor.panes ∧
        after.exitTombstones = actor.exitTombstones := by
    intro waiters
    induction waiters with
    | nil =>
        intro before panes exits
        exact ⟨by simp, panes, exits⟩
    | cons first rest ih =>
        intro before panes exits
        obtain ⟨turned, samePanes, sameExits⟩ :=
          checkWaiter_eq outside now before first
        obtain ⟨waiters, further⟩ := ih
          (checkWaiter outside now before first)
          (samePanes.trans panes) (sameExits.trans exits)
        have same : before.stays outside now = actor.stays outside now := by
          funext waiter
          simp only [stays, panes, exits]
        refine ⟨?_, further⟩
        rw [List.foldl_cons, waiters, turned, same, List.append_assoc,
          ← List.filter_append, List.singleton_append]
  exact loop actor.automationWaiters _ rfl rfl

/-! ## The deadline against the answers -/

variable {actor : AutomationActor} {waiter : Waiter} {outside : Outside}
  {now : Nat}

/-- The deadline is the time until the first waiter is due. -/
theorem nextAutomationDeadline_le
    (now : Nat)
    (here : waiter ∈ actor.automationWaiters) :
    actor.nextAutomationDeadline now ≤ waiter.due actor.panes - now := by
  unfold nextAutomationDeadline
  have listed := List.mem_map_of_mem
    (f := fun waiter : Waiter => waiter.due actor.panes - now) here
  cases first : (actor.automationWaiters.map fun waiter =>
      waiter.due actor.panes - now).min? with
  | none =>
      rw [List.min?_eq_none_iff] at first
      rw [first] at listed
      cases listed
  | some least =>
      exact (List.min?_eq_some_iff.mp first).2 _ listed

/-- Some time passes until the deadline if no waiter is due. -/
theorem nextAutomationDeadline_pos
    {now : Nat} :
    0 < actor.nextAutomationDeadline now ↔
      ∀ waiter ∈ actor.automationWaiters, now < waiter.due actor.panes := by
  constructor
  · intro positive waiter here
    have least := nextAutomationDeadline_le now here
    omega
  · intro later
    unfold nextAutomationDeadline
    cases first : (actor.automationWaiters.map fun waiter =>
        waiter.due actor.panes - now).min? with
    | none => exact Nat.succ_pos _
    | some least =>
        obtain ⟨waiter, here, rfl⟩ := List.mem_map.mp
          (List.min?_eq_some_iff.mp first).1
        exact Nat.sub_pos_of_lt (later waiter here)

/-- Only the answer for a stable screen looks at the time. -/
theorem waiterResult_timeless
    (outside : Outside)
    (now time : Nat)
    (panes : OrderedMap PaneId Pane)
    (exits : List (PaneId × Option PtyExitStatus))
    (other : ∀ quiet afterScreen,
      waiter.kind ≠ .screenStable quiet afterScreen) :
    waiterResult outside now panes exits waiter =
      waiterResult outside time panes exits waiter := by
  unfold waiterResult
  cases kind : waiter.kind with
  | screenStable quiet afterScreen => exact absurd kind (other _ _)
  | media => rfl
  | mediaTrace => rfl
  | rendered => rfl
  | exit => rfl
  | text => rfl
  | screenChange => rfl

variable {exits : List (PaneId × Option PtyExitStatus)}
  {panes : OrderedMap PaneId Pane}

/-- What an unanswered waiter for a stable screen waits for. -/
theorem unanswered_stable
    {quiet : Nat}
    {afterScreen : Option Nat}
    (kind : waiter.kind = .screenStable quiet afterScreen) :
    waiterResult outside now panes exits waiter = none ↔
      ∀ paneId, waiter.paneId = some paneId →
        ∃ pane, panes.find? paneId = some pane ∧
          ((afterScreen.all fun sequence =>
              decide (sequence < pane.screenSequence)) = true →
            now - pane.lastScreenChange < quiet) := by
  simp only [waiterResult, kind]
  cases waiter.paneId with
  | none => simp
  | some paneId =>
      cases found : panes.find? paneId with
      | none => simp [found]
      | some pane =>
          simp only [Option.bind_some, found, Option.some.injEq,
            forall_eq', exists_eq_left', screenResult]
          split
          next answered =>
            simp only [Bool.and_eq_true, decide_eq_true_eq] at answered
            simp [answered.1, answered.2]
          next waits =>
            simp only [Bool.and_eq_true, decide_eq_true_eq, not_and,
              Nat.not_le] at waits
            simpa using waits

/-- An answer that time alone gives comes when the quiet time is over. -/
theorem stableReady_of_waiterResult
    {now time : Nat}
    (unanswered : waiterResult outside now panes exits waiter = none)
    (answered : waiterResult outside time panes exits waiter ≠ none) :
    ∃ ready, waiter.stableReady panes = some ready ∧ ready ≤ time := by
  by_cases stable : ∃ quiet afterScreen,
      waiter.kind = .screenStable quiet afterScreen
  · obtain ⟨quiet, afterScreen, kind⟩ := stable
    rw [unanswered_stable kind] at unanswered
    rw [Ne, unanswered_stable kind] at answered
    push Not at answered
    obtain ⟨paneId, known, refuses⟩ := answered
    obtain ⟨pane, found, waits⟩ := unanswered paneId known
    obtain ⟨newer, quietEnds⟩ := refuses pane found
    have early := waits newer
    refine ⟨pane.lastScreenChange + quiet, ?_, by omega⟩
    simp [Waiter.stableReady, kind, known, found]
  · push Not at stable
    rw [waiterResult_timeless outside now time panes exits stable]
      at unanswered
    exact absurd unanswered answered

/-- A waiter that ends by the passing of time is due by then. -/
theorem due_le_of_endsBy
    {now time : Nat}
    (unanswered : waiterResult outside now actor.panes actor.exitTombstones
      waiter = none)
    (ends : actor.EndsBy outside time waiter) :
    waiter.due actor.panes ≤ time := by
  unfold Waiter.due
  rcases ends with past | answered
  · split
    · exact Nat.le_trans (Nat.min_le_right _ _) past
    · exact past
  · obtain ⟨ready, isReady, reached⟩ := stableReady_of_waiterResult unanswered
      (Option.isSome_iff_ne_none.mp answered)
    rw [isReady]
    exact Nat.le_trans (Nat.min_le_left _ _) reached

/-- Of the waiters that a check leaves, the due ones are those whose pane is
quiet for long enough on a screen that is not newer. -/
theorem due_of_stays
    (stays : actor.stays outside now waiter = true) :
    now < waiter.due actor.panes ↔
      ∀ quiet sequence paneId pane,
        waiter.kind = .screenStable quiet (some sequence) →
        waiter.paneId = some paneId →
        actor.panes.find? paneId = some pane →
        pane.screenSequence ≤ sequence →
          now < pane.lastScreenChange + quiet := by
  simp only [AutomationActor.stays, Bool.and_eq_true, decide_eq_true_eq,
    Option.isNone_iff_eq_none] at stays
  obtain ⟨early, unanswered⟩ := stays
  constructor
  · intro later quiet sequence paneId pane kind known found _
    simp only [Waiter.due, Waiter.stableReady, kind, known, found,
      Option.map_some] at later
    exact Nat.lt_of_lt_of_le later (Nat.min_le_left _ _)
  · intro fresh
    unfold Waiter.due
    split
    next ready isReady =>
      refine Nat.lt_min.mpr ⟨?_, early⟩
      unfold Waiter.stableReady at isReady
      split at isReady
      next quiet afterScreen paneId kind known =>
        rw [unanswered_stable kind] at unanswered
        obtain ⟨pane, found, waits⟩ := unanswered paneId known
        rw [found, Option.map_some, Option.some.injEq] at isReady
        subst isReady
        cases afterScreen with
        | none =>
            have waits := waits rfl
            omega
        | some sequence =>
            by_cases newer : sequence < pane.screenSequence
            · have waits := waits (by simp [newer])
              omega
            · exact fresh quiet sequence paneId pane kind known found
                (Nat.le_of_not_lt newer)
      · cases isReady
    · exact early

/-- Directly behind a check the actor neither polls without a pause nor sleeps
past the end of a wait, exactly when no waiter that is left has its pane quiet
for long enough on a screen that is not newer. -/
theorem schedules_checkAutomationWaiters_iff
    (actor : AutomationActor)
    (outside : Outside)
    (now : Nat) :
    (actor.checkAutomationWaiters outside now).Schedules outside now ↔
      actor.NoStaleQuiet now := by
  obtain ⟨waiters, panes, exits⟩ :=
    checkAutomationWaiters_eq actor outside now
  constructor
  · intro schedules waiter here early quiet sequence paneId pane kind known
      found old
    have unanswered : waiterResult outside now actor.panes
        actor.exitTombstones waiter = none := by
      rw [unanswered_stable kind]
      rintro other same
      rw [known] at same
      cases same
      refine ⟨pane, found, fun newer => ?_⟩
      rw [Option.all_some, decide_eq_true_eq] at newer
      exact absurd newer (Nat.not_lt.mpr old)
    have stays : actor.stays outside now waiter = true := by
      simp [AutomationActor.stays, early, unanswered]
    have later := nextAutomationDeadline_pos.mp schedules.positive waiter
      (by rw [waiters]; exact List.mem_filter.mpr ⟨here, stays⟩)
    rw [panes] at later
    exact (due_of_stays stays).mp later quiet sequence paneId pane kind known
      found old
  · intro fresh
    constructor
    · refine nextAutomationDeadline_pos.mpr fun waiter here => ?_
      rw [waiters] at here
      obtain ⟨listed, stays⟩ := List.mem_filter.mp here
      rw [panes]
      refine (due_of_stays stays).mpr (fresh waiter listed ?_)
      simp only [AutomationActor.stays, Bool.and_eq_true,
        decide_eq_true_eq] at stays
      exact stays.1
    · intro waiter here time _ ends
      have least := nextAutomationDeadline_le now here
      rw [waiters] at here
      obtain ⟨-, stays⟩ := List.mem_filter.mp here
      simp only [AutomationActor.stays, Bool.and_eq_true,
        Option.isNone_iff_eq_none] at stays
      have unanswered : waiterResult outside now
          (actor.checkAutomationWaiters outside now).panes
          (actor.checkAutomationWaiters outside now).exitTombstones waiter =
            none := by
        rw [panes, exits]
        exact stays.2
      have due := due_le_of_endsBy unanswered ends
      omega

/-- A waiter asks for a newer screen than the one on which its pane has been
quiet since its start. -/
def quietActor : AutomationActor :=
  { start with
    panes := OrderedMap.empty.insert 0 (Pane.spawned 0 0)
    automationWaiters :=
      [⟨⟨0, 0, 0⟩, some 0, 60000, .screenStable 100 (some 1)⟩] }

/-- The actor polls without a pause until the waiter times out. -/
theorem quietActor_spins :
    ¬ (quietActor.checkAutomationWaiters nothingOutside 1000).Schedules
      nothingOutside 1000 := by
  intro schedules
  have stuck : (quietActor.checkAutomationWaiters nothingOutside
      1000).nextAutomationDeadline 1000 = 0 := by
    decide +kernel
  have positive := schedules.positive
  rw [stuck] at positive
  exact Nat.lt_irrefl 0 positive

end AutomationActor

end Automation
end Vvmux
