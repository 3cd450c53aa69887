import Vvmux.Session.FocusInvariant
import Vvmux.Layout.Neighbours

/-!
# The focus in every run

The panes that an event may close are the refused ones and the ones it targets.
In a run whose events leave every tab safe from them, or its focus steady, the
focused pane of every tab is a pane of that tab. The counterexample closes the
only tiled pane over a hidden float.
-/

namespace Vvmux
namespace Session

open Library
open Layout

namespace SessionActor

/-- Some remaining answer refuses the pane. -/
def Refused (s : SessionActor) (pane : PaneId) : Prop :=
  ∃ answer ∈ s.environment.resizeRefusals, pane ∈ answer

/-- Pane input would fail and close its pane. -/
def ClosingInput (s : SessionActor) : Prop :=
  ∃ failed, s.environment.reaction = .input (some failed) ∧ failed.close = true

/-- The focused pane of the active tab; ending a drag or an edit mode with a
refused resize may make it any other. -/
def FocusTarget (s : SessionActor) (pane : PaneId) : Prop :=
  s.Granted → ∃ tab, s.activeTab? = some tab ∧ pane = tab.focused

/-- Panes that an event may close without any refusal. A press is described
apart. -/
def Targeted (s : SessionActor) : ActorEvent → PaneId → Prop
  | .ptyExit exited, pane => pane = exited
  | .ptyOutput source _ answers, pane => answers.close = true ∧ pane = source
  | .client _ .input, pane => s.ClosingInput ∧
      ∃ tab, s.activeTab? = some tab ∧ pane = tab.focused
  | .client _ (.action .closePane), pane => s.FocusTarget pane
  | .client _ (.action .enterCopyMode), pane
  | .client _ (.action .copyInput), pane
  | .client _ (.action .paste), pane => s.ClosingInput ∧ s.FocusTarget pane
  | .client _ (.automation requested allowFocused .closePane), pane =>
      s.resolveAutomationPane requested allowFocused = .ok pane
  | .client _ (.mouse _), _ => s.ClosingInput ∧ ¬s.Granted
  | _, _ => False

/-- Panes that an event may close. -/
def Closable (s : SessionActor) (event : ActorEvent) (pane : PaneId) : Prop :=
  s.Refused pane ∨ s.Targeted event pane

/-- A tab projects a pane: the zoomed one, or any shown one. -/
def Projected (tab : Tab) (pane : PaneId) : Prop :=
  match tab.zoomed with
  | some zoomed => pane = zoomed
  | none => tab.Shown pane

/-- A press moves the focus before its pane may close, and ends an edit mode
with a copy of the tab in hand. -/
structure PressSpared (s : SessionActor) (closable : PaneId → Prop) : Prop where
  mode : s.floatModal ≠ none → s.Granted
  target : s.Granted → s.ClosingInput → ∀ tab pane, s.activeTab? = some tab →
    Projected tab pane →
      Safe (fun id => id = pane) tab ∨ tab.paneIds.length = 1
  others : ∀ tab ∈ s.tabs, Safe closable tab ∨ tab.paneIds.length = 1

/-- What a request asks beyond the tabs as they are: a press, a toggle and an
automation split or focus move the focus before the last relayout. -/
def RequestSpared (s : SessionActor) (closable : PaneId → Prop) :
    ActorEvent → Prop
  | .client _ (.mouse event) => event.kind ≠ .move → event.kind ≠ .release →
      s.PressSpared closable
  | .client _ (.action .toggleFloatingPanes) => ∀ tab ∈ s.tabs,
      Safe closable (flipped tab) ∨ tab.paneIds.length = 1
  | .client _ (.automation requested allowFocused (.split _)) => ∀ pane tab,
      s.resolveAutomationPane requested allowFocused = .ok pane →
        s.tabs.find? (fun tab => tab.contains pane) = some tab →
          Safe closable tab ∨ tab.paneIds.length = 1 ∨ ¬closable s.nextPaneId
  | .client _ (.automation requested allowFocused .focus) => ∀ pane tab,
      s.resolveAutomationPane requested allowFocused = .ok pane →
        s.tabs.find? (fun tab => tab.contains pane) = some tab →
          Safe closable tab ∨ tab.paneIds.length = 1 ∨ ¬closable pane ∨
            (tab.floating.get pane).any (fun float => !float.pinned) = true
  | _ => True

/-- The event leaves every tab safe or its focus steady. -/
structure FocusSpared (s : SessionActor) (event : ActorEvent) : Prop where
  tabs : ∀ tab ∈ s.tabs, Safe (s.Closable event) tab ∨
    Steady (s.Closable event) tab
  request : s.RequestSpared (s.Closable event) event

/-- Everything a step needs to know to keep a predicate of single tabs. -/
structure Prepared
    (s : SessionActor)
    (event : ActorEvent)
    (next : Tab → Prop)
    (closable : PaneId → Prop)
    (perTab : Tab → Prop) : Prop where
  rule : TabStable closable perTab
  implies : ∀ tab, perTab tab → next tab
  tabs : ∀ tab ∈ s.tabs, perTab tab
  refusals : ∀ pane, s.Refused pane → closable pane
  permitted : EventPermitted closable perTab next s event

variable {closable : PaneId → Prop}

theorem Prepared.wellPlaced
    {s : SessionActor}
    {event : ActorEvent}
    {next perTab : Tab → Prop}
    (prepared : Prepared s event next closable perTab)
    (placed : Placed s) : WellPlaced closable perTab s :=
  ⟨placed, fun answer remaining pane named =>
    prepared.refusals pane ⟨answer, remaining, named⟩, prepared.tabs⟩

/-- The active tab after drag and edit mode were ended without a refusal. -/
theorem similar_activeTab
    {s u : SessionActor}
    (reshaped : Reshaped { s with pointerDrag := none } u)
    {tab : Tab}
    (active : u.activeTab? = some tab) :
    ∃ old, s.activeTab? = some old ∧ Tab.Similar old tab := by
  rw [activeTab?, reshaped.activeTab] at active
  exact exists_related_getElem? reshaped.tabs active

/-- Settling keeps the answer to pane input. -/
theorem reaction_settle
    {s u : SessionActor}
    (settled : s.settle = some u) :
    u.environment.reaction = s.environment.reaction := by
  obtain ⟨v, cancelled, ended⟩ := Option.bind_eq_some_iff.mp settled
  have stable := stable_reaction s.environment.reaction
  exact (stable.endFloatMode (stable.cancelPointerDrag rfl cancelled).1 ended).1

/-- The focus of the active tab in the settled state is targeted. -/
theorem focusTarget_settle
    {s u : SessionActor}
    (placed : Placed s)
    (settled : s.settle = some u)
    {tab : Tab}
    (active : u.activeTab? = some tab) : s.FocusTarget tab.focused := by
  intro granted
  obtain ⟨old, oldActive, same⟩ :=
    similar_activeTab (granted.settle placed settled) active
  exact ⟨old, oldActive, same.focused⟩

/-- Focusing a pane on behalf of an automation client. -/
theorem Kept.focusInTab
    {tab : Tab}
    {pane : PaneId}
    (kept : Kept closable tab)
    (present : pane ∈ tab.paneIds)
    (covered : Safe closable tab ∨ tab.paneIds.length = 1 ∨ ¬closable pane ∨
      (tab.floating.get pane).any (fun float => !float.pinned) = true) :
    Kept closable (SessionActor.focusInTab pane tab) := by
  have focus : ∀ base : Tab, base.paneIds = tab.paneIds →
      (base.zoomed = tab.zoomed ∨ base.zoomed = none) →
        (Safe closable base ∨ base.paneIds.length = 1 ∨ ¬closable pane) →
          Kept closable (base.setFocus pane) := by
    intro base paneIds zoomed spared
    have anchored : Anchored base → Anchored (base.setFocus pane) :=
      fun inner => inner.setFocus (paneIds ▸ present)
    have baseZoom : ∀ other, base.zoomed = some other → other ∈ base.paneIds := by
      intro other zoom
      rw [paneIds]
      rcases zoomed with same | none
      · exact kept.anchored.zoomed other (same ▸ zoom)
      · rw [none] at zoom
        exact nomatch zoom
    have same := Tab.samePanes_setFocus base pane
    refine ⟨⟨?_, fun other zoom => ?_⟩, ?_⟩
    · rw [Tab.setFocus_focused, same.mem_iff, paneIds]
      exact present
    · rw [Tab.setFocus_zoomed] at zoom
      rw [same.mem_iff]
      exact baseZoom other zoom
    · rcases spared with safe | single | stays
      · exact .inl (safe.setFocus pane)
      · exact .inr (.inr (same.perm.length_eq.trans single))
      · exact .inr (.inl (by rwa [Tab.setFocus_focused]))
  unfold SessionActor.focusInTab
  by_cases ordinary :
      (tab.floating.get pane).any (fun float => !float.pinned) = true
  · -- The ordinary class becomes visible: everything is shown.
    have allShown : ∀ zoomed, Safe closable { tab with
        floating := { tab.floating with ordinaryVisible := true }
        zoomed := zoomed } := by
      refine fun zoomed => .inr (.inl fun other inside => ?_)
      rcases List.mem_append.mp inside with leaf | float
      · exact .inl leaf
      · rw [FloatingLayer.paneIds_eq_classes] at float
        obtain ⟨entry, member, rfl⟩ := List.mem_map.mp float
        exact .inr ⟨entry.2, member, .inr rfl⟩
    simp only [if_pos ordinary]
    split_ifs
    · exact focus _ rfl (.inr rfl) (.inl (allShown none))
    · exact focus _ rfl (.inl rfl) (.inl (allShown tab.zoomed))
  · have spared : Safe closable tab ∨ tab.paneIds.length = 1 ∨ ¬closable pane := by
      rcases covered with safe | single | stays | isOrdinary
      · exact .inl safe
      · exact .inr (.inl single)
      · exact .inr (.inr stays)
      · exact absurd isOrdinary ordinary
    simp only [if_neg ordinary]
    split_ifs
    · exact focus _ rfl (.inr rfl) spared
    · exact focus _ rfl (.inl rfl) spared

/-! ## Each event is prepared -/

section Prepare

variable {s : SessionActor}

variable {id : Nat} {tab : Tab} {event : MouseEvent} {pane : PaneId}

/-- An action other than a toggle. -/
theorem FocusSpared.action
    (placed : Placed s)
    {action : Action}
    (notToggle : action ≠ .toggleFloatingPanes)
    (arrived : WellPlaced (s.Closable (.client id (.action action)))
      (Kept (s.Closable (.client id (.action action)))) s) :
    EventPermitted (s.Closable (.client id (.action action)))
      (Kept (s.Closable (.client id (.action action)))) Anchored s
      (.client id (.action action)) := by
  intro u settled
  have holds := (keeps_settle Kept.stable arrived settled).1
  have keptOf : ∀ tab, u.activeTab? = some tab →
      Kept (s.Closable (.client id (.action action))) tab :=
    fun tab active => holds.tabs tab (List.mem_of_getElem? active)
  have reaction := reaction_settle settled
  cases action with
  | split axis =>
      intro tab candidate active _ accepts _
      exact (keptOf tab active).split accepts (.inl rfl)
  | focus direction =>
      intro tab pane active _ present
      exact (keptOf tab active).anchored.setFocus present
  | newTab => exact kept_freshTab _ _
  | closePane =>
      intro tab active
      exact .inr (focusTarget_settle placed settled active)
  | toggleZoom => exact fun tab active => (keptOf tab active).toggleZoom
  | newFloatingPane =>
      exact fun tab active _ => (keptOf tab active).float u.nextPaneId
  | toggleFloatingPanes => exact absurd rfl notToggle
  | togglePanePinned =>
      intro tab pinned active unzoomed
      have anchored := (keptOf tab active).anchored
      have same := samePanes_setPinned tab tab.focused pinned
      refine ⟨(same.mem_iff _).mpr anchored.focused, fun zoomed zoom => ?_⟩
      exact nomatch unzoomed.symm.trans zoom
  | enterCopyMode | copyInput | paste =>
      intro tab failed active reacts close
      exact .inr ⟨⟨failed, reaction ▸ reacts, close⟩,
        focusTarget_settle placed settled active⟩
  | resize direction | nextTab | previousTab | selectTab index
  | enterFloatingMoveMode | enterFloatingResizeMode => trivial

/-- A toggle, when every tab stays safe after it too. -/
theorem FocusSpared.toggle
    (arrived : WellPlaced closable (fun tab => Kept closable tab ∧
      (Safe closable (flipped tab) ∨ tab.paneIds.length = 1)) s) :
    EventPermitted closable (fun tab => Kept closable tab ∧
      (Safe closable (flipped tab) ∨ tab.paneIds.length = 1)) (Kept closable) s
      (.client id (.action .toggleFloatingPanes)) := by
  intro u settled
  have holds := (keeps_settle (TabStable.and Kept.stable tabStable_flipped)
    arrived settled).1
  refine ⟨Kept.stable, fun tab active _ => ?_⟩
  have both := holds.tabs tab (List.mem_of_getElem? active)
  exact both.1.toggleTabFloats both.2

/-- An automation request. -/
theorem FocusSpared.automation
    {requested : Option PaneId}
    {allowFocused : Bool}
    {method : AutomationMethod}
    (copies : s.CopySpared
      (.client id (.automation requested allowFocused method)))
    (request : s.RequestSpared closable
      (.client id (.automation requested allowFocused method)))
    (targeted : ∀ pane, s.Targeted
      (.client id (.automation requested allowFocused method)) pane →
        closable pane)
    (tabs : ∀ tab ∈ s.tabs, Kept closable tab) :
    EventPermitted closable (Kept closable) Anchored s
      (.client id (.automation requested allowFocused method)) := by
  intro pane resolved
  cases method with
  | split axis =>
      intro tab candidate owner accepts granted
      refine ⟨copies pane tab candidate resolved owner accepts granted, ?_⟩
      have kept := tabs tab (List.mem_of_find?_eq_some owner)
      exact kept.split accepts (.inr (request pane tab resolved owner))
  | focus =>
      intro tab owner
      have kept := tabs tab (List.mem_of_find?_eq_some owner)
      have owns := List.find?_some owner
      have present := (Tab.contains_iff tab pane).mp owns
      exact kept.focusInTab present (request pane tab resolved owner)
  | closePane => exact targeted pane resolved

variable {projection : PaneProjection}

theorem projected_of_hits
    (hits : s.Hits tab event projection) : Projected tab projection.paneId := by
  obtain ⟨projections, projected, found⟩ := hits
  have present : projection ∈ projections :=
    List.mem_reverse.mp (List.mem_of_find?_eq_some found)
  unfold Projected
  cases zoom : tab.zoomed with
  | none => exact Tab.shown_of_visibleProjections projected zoom present
  | some zoomed =>
      simp only [Tab.visibleProjections, zoom, Option.some.injEq] at projected
      subst projected
      rw [List.mem_singleton] at present
      rw [present]

theorem Projected.similar
    {before after : Tab}
    (projected : Projected after pane)
    (same : Tab.Similar before after) : Projected before pane := by
  unfold Projected at projected ⊢
  rw [same.zoomed] at projected
  cases zoom : before.zoomed with
  | none =>
      rw [zoom] at projected
      exact (same.shown_iff pane).mp projected
  | some zoomed =>
      rw [zoom] at projected
      exact projected

theorem mem_of_projected
    (anchored : Anchored tab)
    (projected : Projected tab pane) : pane ∈ tab.paneIds := by
  unfold Projected at projected
  cases zoom : tab.zoomed with
  | none =>
      rw [zoom] at projected
      exact Tab.mem_of_shown projected
  | some zoomed =>
      rw [zoom] at projected
      exact projected ▸ anchored.zoomed zoomed zoom

/-- The pane that a press hits once the drag is restored. -/
def Pressed (s : SessionActor) (event : MouseEvent) (pane : PaneId) : Prop :=
  ∃ u tab projection, s.cancelPointerDrag true = some u ∧
    u.activeTab? = some tab ∧ u.Hits tab event projection ∧
      pane = projection.paneId

theorem Pressed.unique
    {first second : PaneId}
    (left : s.Pressed event first)
    (right : s.Pressed event second) : first = second := by
  obtain ⟨u, tab, projection, cancelled, active, ⟨projections, projected, found⟩,
    rfl⟩ := left
  obtain ⟨u', tab', projection', cancelled', active',
    ⟨projections', projected', found'⟩, rfl⟩ := right
  rw [cancelled, Option.some.injEq] at cancelled'
  subst cancelled'
  rw [active, Option.some.injEq] at active'
  subst active'
  rw [projected, Option.some.injEq] at projected'
  subst projected'
  rw [found, Option.some.injEq] at found'
  rw [found']

/-- A press keeps the answer to pane input. -/
theorem reaction_afterPress
    {u v : SessionActor}
    (cancelled : s.cancelPointerDrag true = some u)
    (pressed : u.afterPress tab projection = some v) :
    v.environment.reaction = s.environment.reaction := by
  have stable := stable_reaction s.environment.reaction
  have kept := (stable.cancelPointerDrag rfl cancelled).1
  unfold afterPress at pressed
  split_ifs at pressed
  · exact (stable.endFloatMode kept pressed).1
  · rw [Option.some.injEq] at pressed
    exact pressed ▸ kept

/-- A press while some PTY refuses its size. -/
theorem FocusSpared.refusedMouse
    (placed : Placed s)
    (copies : s.CopySpared (.client id (.mouse event)))
    (noMode : s.floatModal = none)
    (refused : ¬s.Granted)
    (arrived : WellPlaced (s.Closable (.client id (.mouse event)))
      (fun tab => Kept (s.Closable (.client id (.mouse event))) tab ∧
        (Safe (s.Closable (.client id (.mouse event))) tab ∨
          tab.paneIds.length = 1)) s) :
    EventPermitted (s.Closable (.client id (.mouse event)))
      (fun tab => Kept (s.Closable (.client id (.mouse event))) tab ∧
        (Safe (s.Closable (.client id (.mouse event))) tab ∨
          tab.paneIds.length = 1)) Anchored s (.client id (.mouse event)) := by
  intro notMove notRelease u cancelled tab projection active hits
  obtain ⟨holds, calm, _⟩ := (WellPlaced.stable
    (TabStable.and Kept.stable tabStable_safe)).cancelPointerDrag arrived cancelled
  have unchanged : ∀ v, u.afterPress tab projection = some v → v = u := by
    intro v pressed
    have ended : u.endFloatMode true = some u := by
      simp [endFloatMode, endFloatModeWith, calm.modal noMode]
    unfold afterPress at pressed
    split_ifs at pressed
    · exact (Option.some.inj (ended.symm.trans pressed)).symm
    · exact (Option.some.inj pressed).symm
  refine ⟨fun v pressed => leaves_afterPress placed copies notMove notRelease
    cancelled active pressed, ?_, ?_⟩
  · intro v other pressed otherActive
    rw [unchanged v pressed, active, Option.some.injEq] at otherActive
    subst otherActive
    obtain ⟨kept, spared⟩ := holds.tabs tab (List.mem_of_getElem? active)
    have present := mem_of_projected kept.anchored (projected_of_hits hits)
    have focusedSpared := spared.imp
      (fun safe => safe.setFocus projection.paneId)
      (fun single => (Tab.samePanes_setFocus tab
        projection.paneId).perm.length_eq.trans single)
    exact ⟨⟨kept.anchored.setFocus present, focusedSpared.imp_right .inr⟩,
      focusedSpared⟩
  · intro v failed pressed reacts close
    rw [reaction_afterPress cancelled pressed] at reacts
    exact .inr ⟨⟨failed, reacts, close⟩, refused⟩

/-- Panes that a press may close while every resize is granted. -/
def PressTarget (s : SessionActor) (event : MouseEvent) (pane : PaneId) : Prop :=
  s.ClosingInput ∧ s.Pressed event pane

section

variable (placed : Placed s) (anchored : ∀ tab ∈ s.tabs, Anchored tab)
include placed anchored

/-- A granted press on a pane leaves the pane's tab safe. -/
theorem PressSpared.safe
    (granted : s.Granted)
    (spared : s.PressSpared closable)
    (target : s.PressTarget event pane)
    (member : tab ∈ s.tabs)
    (owned : pane ∈ tab.paneIds) :
    Safe (s.PressTarget event) tab ∨ tab.paneIds.length = 1 := by
  obtain ⟨closing, pressed⟩ := target
  obtain ⟨u, activeTab, projection, cancelled, active, hits, rfl⟩ := pressed
  obtain ⟨old, oldActive, same⟩ :=
    similar_activeTab (granted.cancelPointerDrag placed cancelled) active
  have projected := (projected_of_hits hits).similar same
  have oldMember := List.mem_of_getElem? oldActive
  have inOld := mem_of_projected (anchored old oldMember) projected
  -- The pane has one place, so the two tabs are one.
  have sameTab : old = tab := by
    obtain ⟨index, found⟩ := List.getElem?_of_mem member
    by_contra different
    have apart : s.activeTab ≠ index := by
      rintro rfl
      exact different (Option.some.inj (oldActive.symm.trans found))
    exact not_mem_of_other_section placed.distinct found oldActive apart owned
      inOld
  subst sameTab
  have unique : ∀ id, s.PressTarget event id → id = projection.paneId :=
    fun id other => other.2.unique
      ⟨u, activeTab, projection, cancelled, active, hits, rfl⟩
  rcases spared.target granted closing old projection.paneId oldActive
    projected with safe | single
  · left
    rcases safe with untouched | shown | ⟨other, shown, stays⟩
    · exact absurd rfl (untouched _ inOld)
    · exact .inr (.inl shown)
    · exact .inr (.inr ⟨other, shown, fun closes => stays (unique other closes)⟩)
  · exact .inr single

/-- A press while every resize is granted. -/
theorem FocusSpared.grantedMouse
    (copies : s.CopySpared (.client id (.mouse event)))
    (granted : s.Granted)
    (spared : s.PressSpared closable) :
    EventPermitted (s.PressTarget event) (Kept (s.PressTarget event))
      (Kept (s.PressTarget event)) s (.client id (.mouse event)) := by
  intro notMove notRelease u cancelled tab projection active hits
  have restored := granted.cancelPointerDrag placed cancelled
  obtain ⟨old, oldActive, same⟩ := similar_activeTab restored active
  have oldMember := List.mem_of_getElem? oldActive
  have present : projection.paneId ∈ old.paneIds :=
    mem_of_projected (anchored old oldMember)
      ((projected_of_hits hits).similar same)
  refine ⟨fun v pressed => leaves_afterPress placed copies notMove notRelease
    cancelled active pressed, ?_, ?_⟩
  · intro v other pressed otherActive
    have reshaped : Reshaped { s with pointerDrag := none } v := by
      unfold afterPress at pressed
      split_ifs at pressed
      · have dropped : Granted { s with pointerDrag := none } := granted
        exact restored.trans
          (Granted.endFloatMode (dropped.reshaped restored) pressed)
      · rw [Option.some.injEq] at pressed
        exact pressed ▸ restored
    obtain ⟨origin, originActive, moved⟩ := similar_activeTab reshaped otherActive
    rw [oldActive, Option.some.injEq] at originActive
    subst originActive
    have otherAnchored := (anchored old oldMember).similar moved
    have inOther : projection.paneId ∈ other.paneIds :=
      (moved.samePanes.mem_iff _).mpr present
    refine ⟨otherAnchored.setFocus inOther, ?_⟩
    by_cases closes : s.PressTarget event projection.paneId
    · rcases spared.safe placed anchored granted closes oldMember present with
        safe | single
      · exact .inl ((safe.similar moved).setFocus _)
      · exact .inr (.inr ((Tab.samePanes_setFocus other
          projection.paneId).perm.length_eq.trans
            (moved.samePanes.perm.length_eq.trans single)))
    · exact .inr (.inl (by rwa [Tab.setFocus_focused]))
  · intro v failed pressed reacts close
    rw [reaction_afterPress cancelled pressed] at reacts
    exact ⟨⟨failed, reacts, close⟩,
      u, tab, projection, cancelled, active, hits, rfl⟩

/-- A spared press is prepared. -/
theorem FocusSpared.press
    (copies : s.CopySpared (.client id (.mouse event)))
    (spared : s.FocusSpared (.client id (.mouse event)))
    (press : s.PressSpared (s.Closable (.client id (.mouse event)))) :
    ∃ closable perTab next, (∀ tab, next tab → Anchored tab) ∧
      Prepared s (.client id (.mouse event)) next closable perTab := by
  by_cases granted : s.Granted
  · refine ⟨s.PressTarget event, Kept (s.PressTarget event),
      Kept (s.PressTarget event), fun tab kept => kept.anchored,
      Kept.stable, fun _ kept => kept, ?_, ?_,
      FocusSpared.grantedMouse placed anchored copies granted press⟩
    · intro tab member
      refine ⟨anchored tab member, ?_⟩
      by_cases closes : s.PressTarget event tab.focused
      · exact (press.safe placed anchored granted closes member
          (anchored tab member).focused).imp_right .inr
      · exact .inr (.inl closes)
    · rintro pane ⟨answer, remaining, named⟩
      rw [granted answer remaining] at named
      exact nomatch named
  · have noMode : s.floatModal = none := by
      by_contra mode
      exact granted (press.mode mode)
    have tabs : ∀ tab ∈ s.tabs,
        Kept (s.Closable (.client id (.mouse event))) tab ∧
          (Safe (s.Closable (.client id (.mouse event))) tab ∨
            tab.paneIds.length = 1) := fun tab member =>
      ⟨⟨anchored tab member, spared.tabs tab member⟩, press.others tab member⟩
    refine ⟨_, _, Anchored, fun _ inside => inside,
      TabStable.and Kept.stable tabStable_safe, fun tab both => both.1.anchored,
      tabs, fun pane refused => .inl refused, ?_⟩
    exact FocusSpared.refusedMouse placed copies noMode granted
      ⟨placed, fun answer remaining pane named =>
        .inl ⟨answer, remaining, named⟩, tabs⟩

/-- A spared event is prepared. -/
theorem FocusSpared.prepared
    {event : ActorEvent}
    (copies : s.CopySpared event)
    (spared : s.FocusSpared event) :
    ∃ closable perTab next, (∀ tab, next tab → Anchored tab) ∧
      Prepared s event next closable perTab := by
  have kept : ∀ tab ∈ s.tabs, Kept (s.Closable event) tab := fun tab member =>
    ⟨anchored tab member, spared.tabs tab member⟩
  have arrived : WellPlaced (s.Closable event) (Kept (s.Closable event)) s :=
    ⟨placed, fun answer remaining pane named => .inl ⟨answer, remaining, named⟩,
      kept⟩
  have plain : EventPermitted (s.Closable event) (Kept (s.Closable event))
      Anchored s event →
        ∃ closable perTab next, (∀ tab, next tab → Anchored tab) ∧
          Prepared s event next closable perTab := fun permitted =>
    ⟨_, _, Anchored, fun _ inside => inside, Kept.stable,
      fun tab inner => inner.anchored, kept, fun pane refused => .inl refused,
      permitted⟩
  cases event with
  | client id message =>
      cases message with
      | attach replace display vivid => exact plain trivial
      | input =>
          refine plain fun tab failed active reacts close => ?_
          exact .inr ⟨⟨failed, reacts, close⟩, tab, active, rfl⟩
      | mouse event =>
          by_cases passive : event.kind = .move ∨ event.kind = .release
          · refine plain fun notMove notRelease => ?_
            exact absurd passive (not_or.mpr ⟨notMove, notRelease⟩)
          · obtain ⟨notMove, notRelease⟩ := not_or.mp passive
            exact FocusSpared.press placed anchored copies spared
              (spared.request notMove notRelease)
      | resize display => exact plain trivial
      | action action =>
          by_cases toggle : action = .toggleFloatingPanes
          · subst toggle
            have both : ∀ tab ∈ s.tabs,
                Kept (s.Closable (.client id (.action .toggleFloatingPanes))) tab ∧
                  (Safe (s.Closable (.client id
                    (.action .toggleFloatingPanes))) (flipped tab) ∨
                      tab.paneIds.length = 1) := fun tab member =>
              ⟨kept tab member, spared.request tab member⟩
            refine ⟨_, _, _, fun tab inner => inner.anchored,
              TabStable.and Kept.stable tabStable_flipped,
              fun tab inner => inner.1, both, fun pane refused => .inl refused, ?_⟩
            exact FocusSpared.toggle ⟨placed, arrived.refusals, both⟩
          · exact plain (FocusSpared.action placed toggle arrived)
      | detach => exact plain trivial
      | floatingEdit modeId command => exact plain trivial
      | automation requested allowFocused method =>
          exact plain (FocusSpared.automation copies spared.request
            (fun pane target => .inr target) kept)
  | disconnected id => exact plain trivial
  | ptyOutput pane screenChanged answers =>
      exact plain fun close => .inr ⟨close, rfl⟩
  | ptyExit pane => exact plain (.inr rfl)

end

end Prepare

/-- Guard of the runs in which no press-time copy is overtaken and no focus is
left without a fallback. -/
def FocusGuard (s : SessionActor) (event : Environment × ActorEvent) : Prop :=
  CopiesSpared s event ∧ { s with environment := event.1 }.FocusSpared event.2

/-- Every pane has its place, and every tab its focus and zoom. -/
structure FocusHeld (s : SessionActor) : Prop where
  placed : Placed s
  anchored : ∀ tab ∈ s.tabs, Anchored tab

theorem focusHeld_of_reachable
    {s : SessionActor}
    (reachable : sessionMachine.Reachable FocusGuard s) : FocusHeld s := by
  refine reachable.invariant ?_ ?_
  · intro start initial
    refine ⟨placed_initial initial, ?_⟩
    obtain ⟨config, started⟩ := initial
    have opened := opened_newTab started
    intro tab present
    rw [opened.tabs] at present
    rw [List.mem_singleton.mp present]
    exact (@kept_freshTab (fun _ => False) _ _).anchored
  · intro before event after holds guard stepped
    have arrived : Placed { before with environment := event.1 } :=
      { holds.placed with }
    obtain ⟨closable, perTab, next, anchors, prepared⟩ :=
      guard.2.prepared arrived holds.anchored guard.1
    obtain ⟨placed, tabs⟩ := placed_sessionStep prepared.rule prepared.implies
      holds.placed prepared.tabs (prepared.wellPlaced arrived).refusals
      prepared.permitted stepped
    exact ⟨placed, fun tab member => anchors tab (tabs tab member)⟩

/-- A client opens a float, hides the floats, and the shell of the tiled pane
exits. -/
def exitUnderHiddenFloat : List (Environment × ActorEvent) :=
  [({}, .client 1 (.attach false ⟨80, 24, 0, 0⟩ false)),
    ({}, .client 1 (.action .newFloatingPane)),
    ({}, .client 1 (.action .toggleFloatingPanes)),
    ({}, .ptyExit 1)]

end SessionActor

end Session
end Vvmux
