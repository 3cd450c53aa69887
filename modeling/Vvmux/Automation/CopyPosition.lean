import Vvmux.Automation.Pane
import Vvmux.Session.Rules
import Vvmux.Terminal.History

/-!
# The position of a copy view

A copy view keeps its place beside the terminal that it shows.  The session
below has the content area, the tabs and the panes.  Its events may change the
layout in any way; a pass of `resize_all` then gives the panes that are shown
the sizes of their projections.

The place stays inside the pane as long as copy mode is entered in a pane that
is as high as the content area allows, a pane in copy mode does not shrink past
its place, and output does not clear the history under a view that is scrolled
back.
-/

namespace Vvmux
namespace Automation

open Library
open Layout
open Session.SessionActor (freshTab splitTab)
open Terminal (UnicodeWidth OutputCall)

/-! ## One pane -/

/-- The place is a cell of the viewport, and the view begins in the history. -/
structure CopyState.Within (copy : CopyState) (terminal : Terminal) : Prop where
  row : copy.row < terminal.rows
  column : copy.column < terminal.cols
  offset : copy.offset ≤ terminal.history.length

instance
    (copy : CopyState)
    (terminal : Terminal) : Decidable (copy.Within terminal) :=
  decidable_of_iff
    (copy.row < terminal.rows ∧ copy.column < terminal.cols ∧
      copy.offset ≤ terminal.history.length)
    ⟨fun ⟨row, column, offset⟩ => ⟨row, column, offset⟩,
      fun within => ⟨within.row, within.column, within.offset⟩⟩

namespace Pane

def CopyWithin (pane : Pane) : Prop :=
  ∀ copy ∈ pane.copy, copy.Within pane.terminal

instance (pane : Pane) : Decidable pane.CopyWithin :=
  inferInstanceAs (Decidable (∀ copy ∈ pane.copy, copy.Within pane.terminal))

/-- What is known of a pane between two events. -/
structure Sound (pane : Pane) : Prop where
  sized : Terminal.WellSized pane.terminal
  limited : pane.terminal.history.length ≤ pane.terminal.historyLimit
  copyWithin : pane.CopyWithin

/-- The condition on an event under which the place stays inside. -/
def Admits
    (pane : Pane) :
    PaneEvent → Prop
  | .output calls _ =>
      (∀ copy ∈ pane.copy, copy.offset = 0) ∨
        ∀ call ∈ calls, call.val.purgesHistory = false
  | .resize height width _ =>
      ∀ copy ∈ pane.copy, copy.row < max height 1 ∧ copy.column < max width 1
  | .enterCopyMode contentHeight _ => contentHeight ≤ pane.terminal.rows + 2
  | .copyInput .. | .mouse _ => True

end Pane

namespace CopyState.Within

/-- A terminal of the same size whose history is no shorter. -/
theorem of_grows
    {copy : CopyState}
    {before after : Terminal}
    (within : copy.Within before)
    (size : Terminal.SameSize before after)
    (grows : before.history.length ≤ after.history.length) :
    copy.Within after where
  row := size.rows ▸ within.row
  column := size.cols ▸ within.column
  offset := within.offset.trans grows

/-- Every key clamps what it moves. -/
theorem key
    {copy moved : CopyState}
    {terminal : Terminal}
    (within : copy.Within terminal)
    {bytes : List UInt8}
    (pressed : copy.key terminal bytes = some moved) :
    moved.Within terminal := by
  obtain ⟨row, column, offset⟩ := within
  unfold CopyState.key at pressed
  split_ifs at pressed <;> cases pressed
  all_goals
    constructor <;> (try dsimp only) <;> omega

end CopyState.Within

namespace Pane

variable {pane : Pane}

theorem Sound.copyInput
    (sound : pane.Sound)
    (keys : String → Option String)
    (bytes : List UInt8)
    (now : Nat) : (pane.copyInput keys bytes now).CopyWithin := by
  intro moved viewed
  rw [copyInput_terminal]
  unfold Pane.copyInput at viewed
  split at viewed
  · rename_i noView
    rw [noView] at viewed
    cases viewed
  · rename_i copy here
    have pressed : copy.key pane.terminal
        ((((copyChordName bytes).bind keys).bind copyActionBytes).getD bytes) =
          some moved := by
      dsimp only at viewed
      split at viewed
      · exact viewed
      · exact viewed
    exact (sound.copyWithin copy here).key pressed

theorem Sound.mouse
    (sound : pane.Sound)
    (event : Session.MouseEvent) : (pane.mouse event).CopyWithin := by
  -- A view that the wheel opens is at the top left.
  have opened : (pane.copy.getD ⟨0, 0, 0, none⟩).Within pane.terminal := by
    cases here : pane.copy with
    | none => exact ⟨sound.sized.rows, sound.sized.cols, Nat.zero_le _⟩
    | some copy => exact sound.copyWithin copy here
  have scrolled : (pane.scrollCopyView event).CopyWithin := by
    obtain ⟨row, column, offset⟩ := opened
    intro moved viewed
    unfold scrollCopyView at viewed ⊢
    dsimp only at viewed ⊢
    split_ifs at viewed ⊢ with back closed
    · cases viewed
      exact ⟨row, column, Nat.min_le_right _ _⟩
    · cases viewed
    · cases viewed
      exact ⟨row, column, (Nat.sub_le _ _).trans offset⟩
  unfold Pane.mouse
  split
  · exact sound.copyWithin
  · split
    · exact scrolled
    · exact sound.copyWithin

/-- Entering copy mode sets the last row of a pane that fills the content
area. -/
theorem Sound.enterCopyMode_iff
    (sound : pane.Sound)
    (contentHeight now : Nat) :
    (pane.enterCopyMode contentHeight now).CopyWithin ↔
      contentHeight ≤ pane.terminal.rows + 2 := by
  have rows := sound.sized.rows
  constructor
  · intro within
    have entered := (within _ rfl).row
    change contentHeight - 2 - 1 < pane.terminal.rows at entered
    omega
  · intro admitted copy entered
    cases entered
    refine ⟨?_, sound.sized.cols, Nat.zero_le _⟩
    change contentHeight - 2 - 1 < pane.terminal.rows
    omega

@[simp] theorem resize_copy
    (pane : Pane)
    (height width now : Nat) :
    (pane.resize height width now).copy = pane.copy := by
  unfold Pane.resize
  split <;> rfl

/-- A resize moves the cursor of the terminal, not the place of the view. -/
theorem Sound.resize_iff
    (sound : pane.Sound)
    (height width now : Nat) :
    (pane.resize height width now).CopyWithin ↔
      ∀ copy ∈ pane.copy,
        copy.row < max height 1 ∧ copy.column < max width 1 := by
  unfold Pane.resize
  split
  · constructor
    · intro within copy viewed
      exact ⟨(within copy viewed).row, (within copy viewed).column⟩
    · intro admitted copy viewed
      obtain ⟨row, column⟩ := admitted copy viewed
      exact ⟨row, column, (sound.copyWithin copy viewed).offset⟩
  · rename_i unchanged
    obtain ⟨sameRows, sameCols⟩ := not_or.mp unchanged
    rw [not_not] at sameRows sameCols
    refine iff_of_true sound.copyWithin ?_
    intro copy viewed
    obtain ⟨row, column, _⟩ := sound.copyWithin copy viewed
    rw [sameRows] at row
    rw [sameCols] at column
    exact ⟨lt_max_of_lt_left row, lt_max_of_lt_left column⟩

/-- A read keeps the limit of the history, and the history within it. -/
theorem keepsLimit_feed
    (unicode : UnicodeWidth)
    (terminal : Terminal)
    (calls : List OutputCall) :
    Terminal.KeepsLimit terminal (terminal.feed unicode calls).1 := by
  have processed : Terminal.KeepsLimit terminal
      (calls.foldl (fun terminal call => terminal.apply unicode call.val)
        terminal) := by
    induction calls generalizing terminal with
    | nil => exact ⟨rfl, id⟩
    | cons call rest ih =>
        have first := Terminal.KeepsLimit.apply unicode terminal call.val
        have further := ih (terminal.apply unicode call.val)
        exact ⟨further.limit.trans first.limit,
          fun within => further.within (first.within within)⟩
  unfold Terminal.feed
  rw [Terminal.damage_eq]
  exact ⟨processed.limit, processed.within⟩

variable {calls : List OutputCall}

/-- A read that does not clear the history leaves it at least as long. -/
theorem growsHistory_feed
    (unicode : UnicodeWidth)
    (terminal : Terminal)
    (keeps : ∀ call ∈ calls, call.val.purgesHistory = false) :
    Terminal.GrowsHistory terminal (terminal.feed unicode calls).1 := by
  have processed : Terminal.GrowsHistory terminal
      (calls.foldl (fun terminal call => terminal.apply unicode call.val)
        terminal) := by
    induction calls generalizing terminal with
    | nil => exact Terminal.GrowsHistory.refl terminal
    | cons call rest ih =>
        obtain ⟨first, further⟩ := List.forall_mem_cons.mp keeps
        exact (Terminal.GrowsHistory.apply unicode terminal first).trans
          (ih _ further)
  have damaged := processed.damage
  exact ⟨damaged.limit, damaged.grows⟩

theorem Sound.output
    (sound : pane.Sound)
    (unicode : UnicodeWidth)
    {now : Nat}
    (admitted : pane.Admits (.output calls now)) :
    (pane.output unicode calls now).1.CopyWithin := by
  intro copy viewed
  rw [output_copy] at viewed
  rw [output_terminal]
  have within := sound.copyWithin copy viewed
  have size := Terminal.sameSize_feed unicode pane.terminal calls
  rcases admitted with live | keeps
  · refine ⟨size.rows ▸ within.row, size.cols ▸ within.column, ?_⟩
    rw [live copy viewed]
    exact Nat.zero_le _
  · have grows := growsHistory_feed unicode pane.terminal keeps
    exact within.of_grows size (grows.grows sound.limited).1

theorem Sound.resize
    (sound : pane.Sound)
    {height width now : Nat}
    (admitted : pane.Admits (.resize height width now)) :
    (pane.resize height width now).Sound where
  sized := by
    unfold Pane.resize
    split
    · exact sound.sized.resize height width
    · exact sound.sized
  limited := by
    unfold Pane.resize
    split
    · exact sound.limited
    · exact sound.limited
  copyWithin := (sound.resize_iff height width now).mpr admitted

/-- Every admitted event keeps the place inside the pane. -/
theorem Sound.paneStep
    (sound : pane.Sound)
    (unicode : UnicodeWidth)
    (keys : String → Option String)
    {event : PaneEvent}
    (admitted : pane.Admits event) :
    (Automation.paneStep unicode keys pane event).Sound := by
  have sized := wellSized_paneStep sound.sized unicode keys event
  cases event with
  | output calls now =>
      refine ⟨sized, ?_, sound.output unicode admitted⟩
      simp only [Automation.paneStep, output_terminal]
      exact (keepsLimit_feed unicode pane.terminal calls).within sound.limited
  | resize height width now => exact sound.resize admitted
  | enterCopyMode contentHeight now =>
      exact ⟨sized, sound.limited,
        (sound.enterCopyMode_iff contentHeight now).mpr admitted⟩
  | copyInput bytes now =>
      refine ⟨sized, ?_, sound.copyInput keys bytes now⟩
      simp only [Automation.paneStep, copyInput_terminal]
      exact sound.limited
  | mouse event =>
      refine ⟨sized, ?_, sound.mouse event⟩
      simp only [Automation.paneStep, mouse_terminal]
      exact sound.limited

theorem sound_spawned
    (scrollbackLines now : Nat) : (spawned scrollbackLines now).Sound where
  sized := Terminal.WellSized.new 22 80 scrollbackLines
  limited := Nat.zero_le _
  copyWithin := by
    intro copy viewed
    cases viewed

end Pane

instance
    (pane : Pane)
    (event : PaneEvent) : Decidable (pane.Admits event) := by
  cases event <;> unfold Pane.Admits <;> infer_instance

/-! ## The session -/

/-- The session as copy mode meets it. -/
structure CopySession where
  /-- The content area between the bars of the host. -/
  area : Rect
  tabs : List Session.Tab
  panes : OrderedMap PaneId Pane
deriving DecidableEq

/-- What can happen to the panes, in any order. -/
inductive CopyEvent where
  | spawn (paneId : PaneId) (scrollbackLines now : Nat)
  | close (paneId : PaneId)
  | changeLayout (area : Rect) (tabs : List Session.Tab)
  | resizeAll (now : Nat)
  | enterCopyMode (paneId : PaneId) (now : Nat)
  | copyInput (paneId : PaneId) (bytes : List UInt8) (now : Nat)
  | mouse (paneId : PaneId) (event : Session.MouseEvent)
  | output (paneId : PaneId) (calls : List OutputCall) (now : Nat)

namespace CopySession

/-- The terminal of a projected pane gets the size of its content. -/
def resizeShown
    (now : Nat)
    (panes : OrderedMap PaneId Pane)
    (projection : PaneProjection) : OrderedMap PaneId Pane :=
  panes.modify projection.paneId fun pane =>
    pane.resize projection.content.height projection.content.width now

/-- The projections of all tabs, from the first tab on. -/
def projections (session : CopySession) : Option (List PaneProjection) :=
  (session.tabs.mapM fun tab : Session.Tab =>
    tab.visibleProjections session.area).map List.flatten

/-- `resize_all`, without the panes that it closes. -/
def resizeAll (now : Nat) (session : CopySession) : Option CopySession :=
  session.projections.map fun shown =>
    { session with panes := shown.foldl (resizeShown now) session.panes }

/-- An event of one pane. -/
def onPane
    (unicode : UnicodeWidth)
    (keys : String → Option String)
    (session : CopySession)
    (paneId : PaneId)
    (event : PaneEvent) : CopySession :=
  { session with
    panes := session.panes.modify paneId fun pane =>
      paneStep unicode keys pane event }

/-- The session after an event; none where the actor aborts. -/
def next
    (unicode : UnicodeWidth)
    (keys : String → Option String)
    (session : CopySession) :
    CopyEvent → Option CopySession
  | .spawn paneId scrollbackLines now =>
      some { session with
        panes := session.panes.insert paneId
          (.spawned scrollbackLines now) }
  | .close paneId =>
      some { session with panes := session.panes.erase paneId }
  | .changeLayout area tabs => some { session with area, tabs }
  | .resizeAll now => session.resizeAll now
  | .enterCopyMode paneId now =>
      some (session.onPane unicode keys paneId
        (.enterCopyMode session.area.height now))
  | .copyInput paneId bytes now =>
      some (session.onPane unicode keys paneId (.copyInput bytes now))
  | .mouse paneId event =>
      some (session.onPane unicode keys paneId (.mouse event))
  | .output paneId calls now =>
      some (session.onPane unicode keys paneId (.output calls now))

/-- The event of a pane is admitted, if there is such a pane. -/
def AdmitsOn
    (session : CopySession)
    (paneId : PaneId)
    (event : PaneEvent) : Prop :=
  ∀ pane ∈ session.panes.find? paneId, pane.Admits event

/-- The condition on an event of the session: copy mode is entered in a pane
with at most the rows of its frame less than the content area, no pane in copy
mode gets too small for its place, and no history is cleared under a view that
is scrolled back. -/
def Admits
    (session : CopySession) :
    CopyEvent → Prop
  | .resizeAll now => ∀ shown ∈ session.projections, ∀ projection ∈ shown,
      session.AdmitsOn projection.paneId
        (.resize projection.content.height projection.content.width now)
  | .enterCopyMode paneId now =>
      session.AdmitsOn paneId (.enterCopyMode session.area.height now)
  | .output paneId calls now => session.AdmitsOn paneId (.output calls now)
  | .spawn .. | .close _ | .changeLayout .. | .copyInput .. | .mouse .. => True

instance
    (session : CopySession)
    (paneId : PaneId)
    (event : PaneEvent) : Decidable (session.AdmitsOn paneId event) :=
  inferInstanceAs
    (Decidable (∀ pane ∈ session.panes.find? paneId, pane.Admits event))

instance
    (session : CopySession)
    (event : CopyEvent) : Decidable (session.Admits event) := by
  cases event <;> unfold CopySession.Admits <;> infer_instance

/-- The place of every copy view is inside its pane. -/
def CopyWithin (session : CopySession) : Prop :=
  session.panes.Every Pane.CopyWithin

end CopySession

/-- Every run of the session; it begins without panes. -/
def copyMachine
    (unicode : UnicodeWidth)
    (keys : String → Option String) : Machine CopySession CopyEvent where
  initial session := session.tabs = [] ∧ session.panes = .empty
  step before event after := before.next unicode keys event = some after

namespace CopySession

/-- One projection of the pass: its pane was asked before the pass began, and
the pass does not move a view. -/
theorem sound_resizeShown
    {panes : OrderedMap PaneId Pane}
    (sound : panes.Every Pane.Sound)
    (now : Nat)
    {shown : List PaneProjection}
    (admitted : ∀ projection ∈ shown,
      ∀ pane ∈ panes.find? projection.paneId,
        pane.Admits (.resize projection.content.height projection.content.width
          now)) :
    (shown.foldl (resizeShown now) panes).Every Pane.Sound := by
  induction shown generalizing panes with
  | nil => exact sound
  | cons projection rest ih =>
      obtain ⟨here, further⟩ := List.forall_mem_cons.mp admitted
      apply ih
      · apply sound.modify
        intro pane found solid
        exact solid.resize (here pane found)
      · intro later listed pane found
        unfold resizeShown at found
        rw [OrderedMap.find?_modify] at found
        split at found
        · obtain ⟨earlier, stored, rfl⟩ := Option.map_eq_some_iff.mp found
          intro copy viewed
          rw [Pane.resize_copy] at viewed
          exact further later listed earlier stored copy viewed
        · exact further later listed pane found

/-- An admitted event keeps every place inside its pane. -/
theorem sound_next
    {unicode : UnicodeWidth}
    {keys : String → Option String}
    {before after : CopySession}
    {event : CopyEvent}
    (sound : before.panes.Every Pane.Sound)
    (admitted : before.Admits event)
    (stepped : before.next unicode keys event = some after) :
    after.panes.Every Pane.Sound := by
  have onPane : ∀ paneId event, before.AdmitsOn paneId event →
      (before.onPane unicode keys paneId event).panes.Every Pane.Sound := by
    intro paneId event admits
    apply sound.modify
    intro pane found solid
    exact solid.paneStep unicode keys (admits pane found)
  cases event with
  | spawn paneId scrollbackLines now =>
      cases stepped
      exact sound.insert paneId (Pane.sound_spawned scrollbackLines now)
  | close paneId =>
      cases stepped
      exact sound.erase paneId
  | changeLayout area tabs =>
      cases stepped
      exact sound
  | resizeAll now =>
      obtain ⟨shown, projected, rfl⟩ := Option.map_eq_some_iff.mp stepped
      exact sound_resizeShown sound now (admitted shown projected)
  | enterCopyMode paneId now =>
      cases stepped
      exact onPane paneId _ admitted
  | copyInput paneId bytes now | mouse paneId event =>
      cases stepped
      exact onPane paneId _ fun _ _ => trivial
  | output paneId calls now =>
      cases stepped
      exact onPane paneId _ admitted

end CopySession

/-- In every run of admitted events, copy positions stay inside their panes. -/
theorem copy_position_inside
    {unicode : UnicodeWidth}
    {keys : String → Option String}
    {session : CopySession}
    (reachable : (copyMachine unicode keys).Reachable CopySession.Admits
      session) :
    session.CopyWithin := by
  have sound : session.panes.Every Pane.Sound := by
    apply reachable.invariant
    · rintro start ⟨_, noPanes⟩
      rw [noPanes]
      exact OrderedMap.Every.empty
    · intro before event after holds admitted stepped
      exact CopySession.sound_next holds admitted stepped
  intro paneId pane found
  exact (sound paneId pane found).copyWithin

/-! ## Runs on a host of 24 rows -/

/-- A content area of 24 rows. -/
def wholeArea :
    Rect where
  x := 0
  y := 0
  width := 80
  height := 24

/-- A session with a pane that fills the content area and has 5 rows of
history. -/
def onePane :
    List CopyEvent :=
  [.spawn 1 1000 0,
    .changeLayout wholeArea [freshTab 1 1],
    .resizeAll 0,
    .output 1 [⟨.scrollUp 5, rfl⟩] 0]

/-- The session after events that all pass a check. -/
def followCopy
    (allowed : CopySession → CopyEvent → Bool)
    (events : List CopyEvent) : Option CopySession :=
  Machine.follow (CopySession.next Terminal.latinAndHan fun _ => none) allowed
    ⟨wholeArea, [], .empty⟩ events

theorem reachable_followCopy
    {guard : CopySession → CopyEvent → Prop}
    {allowed : CopySession → CopyEvent → Bool}
    (checks : ∀ session event, allowed session event = true →
      guard session event)
    {events : List CopyEvent}
    {session : CopySession}
    (followed : followCopy allowed events = some session) :
    (copyMachine Terminal.latinAndHan fun _ => none).Reachable guard session :=
  Machine.Reachable.follow (fun _ _ _ stepped => stepped) checks
    (.initial ⟨rfl, rfl⟩) followed

/-- Copy mode in the upper half of a split. -/
def enterInSplit :
    List CopyEvent :=
  onePane ++
    [.spawn 2 1000 0,
      .changeLayout wholeArea
        [splitTab (.split .horizontal (.leaf 1) (.leaf 2) 1 1) 2
          (freshTab 1 1)],
      .resizeAll 0,
      .enterCopyMode 1 0]

/-- The host gets 12 rows lower under copy mode. -/
def shrinkUnderView :
    List CopyEvent :=
  onePane ++
    [.enterCopyMode 1 0,
      .changeLayout { wholeArea with height := 12 } [freshTab 1 1],
      .resizeAll 0]

/-- The scrollback is cleared under a view that is a page back. -/
def clearUnderView :
    List CopyEvent :=
  onePane ++
    [.enterCopyMode 1 0,
      .copyInput 1 (ascii "\x1b[5~") 0,
      .output 1 [⟨.clearScreen .saved, rfl⟩] 0]

/-- A run takes the place of the view of pane 1 outside it. -/
def LeavesPane (events : List CopyEvent) : Prop :=
  ∃ session pane,
    followCopy (fun _ _ => true) events = some session ∧
    (copyMachine Terminal.latinAndHan fun _ => none).Reachable
      (fun _ _ => True) session ∧
    session.panes.find? 1 = some pane ∧ ¬ pane.CopyWithin ∧
    ¬ session.CopyWithin

theorem leavesPane_of_run
    {events : List CopyEvent}
    (run : (followCopy (fun _ _ => true) events).any (fun session =>
      (session.panes.find? 1).any fun pane => decide ¬ pane.CopyWithin) =
        true) :
    LeavesPane events := by
  obtain ⟨session, followed, viewed⟩ := (Option.any_eq_true _ _).mp run
  obtain ⟨pane, found, outside⟩ := (Option.any_eq_true _ _).mp viewed
  have left := of_decide_eq_true outside
  exact ⟨session, pane, followed,
    reachable_followCopy (fun _ _ _ => trivial) followed, found, left,
    fun within => left (within 1 pane found)⟩

theorem copy_position_outside :
    (TiledNode.leaf 1).splitPane 1 2 .horizontal wholeArea =
        some (.ok (.split .horizontal (.leaf 1) (.leaf 2) 1 1)) ∧
      LeavesPane enterInSplit ∧ LeavesPane shrinkUnderView ∧
      LeavesPane clearUnderView := by
  refine ⟨by decide +kernel, ?_, ?_, ?_⟩
  · exact leavesPane_of_run (by decide +kernel)
  · exact leavesPane_of_run (by decide +kernel)
  · exact leavesPane_of_run (by decide +kernel)

/-- Text arrives under a view that is scrolled back, and then the host gets 12
rows lower, which leaves the view inside. -/
def staysInView :
    List CopyEvent :=
  onePane ++
    [.enterCopyMode 1 0,
      .copyInput 1 (ascii "\x1b[5~") 0,
      .output 1 [⟨.input 'x', rfl⟩, ⟨.linefeed, rfl⟩] 0] ++
    List.replicate 12 (.copyInput 1 (ascii "\x1b[A") 0) ++
    [.changeLayout { wholeArea with height := 12 } [freshTab 1 1],
      .resizeAll 0]

theorem copy_position_inside_scrolled :
    ∃ session pane copy,
      (copyMachine Terminal.latinAndHan fun _ => none).Reachable
        CopySession.Admits session ∧
      session.panes.find? 1 = some pane ∧ pane.copy = some copy ∧
      0 < copy.offset ∧ session.CopyWithin := by
  have run : (followCopy (fun session event => decide (session.Admits event))
      staysInView).any (fun session =>
        (session.panes.find? 1).any fun pane =>
          pane.copy.any fun copy => decide (0 < copy.offset)) = true := by
    decide +kernel
  obtain ⟨session, followed, viewed⟩ := (Option.any_eq_true _ _).mp run
  obtain ⟨pane, found, viewed⟩ := (Option.any_eq_true _ _).mp viewed
  obtain ⟨copy, here, back⟩ := (Option.any_eq_true _ _).mp viewed
  have reachable := reachable_followCopy
    (fun _ _ admitted => of_decide_eq_true admitted) followed
  exact ⟨session, pane, copy, reachable, found, here, of_decide_eq_true back,
    copy_position_inside reachable⟩

end Automation
end Vvmux
