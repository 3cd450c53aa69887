import Vvmux.Session.Rules

/-!
# One event of the actor

What has to be known of an event so that its handling keeps every pane in its
place and a predicate of single tabs: one condition for each request, stated
about the states in which the request rewrites a tab or closes a pane. A weaker
predicate may hold after the event; a toggle relays out under it.
-/

namespace Vvmux
namespace Session

open Library
open Layout

namespace SessionActor

/-- The state in which a prefix action runs: drag and edit mode are ended. -/
def settle (s : SessionActor) : Option SessionActor :=
  (s.cancelPointerDrag true).bind fun s => s.endFloatMode true

section Permitted

variable (closable : PaneId → Prop)
variable (perTab next : Tab → Prop)
variable (s : SessionActor)

/-- Input for the focused pane closes it when its queue fails. -/
def InputPermitted : Prop :=
  ∀ tab failed, s.activeTab? = some tab →
    s.environment.reaction = .input (some failed) → failed.close = true →
      closable tab.focused

def ActionPermitted : Action → Prop
  | .split axis => ∀ tab candidate, s.activeTab? = some tab →
      tab.focused ∉ tab.floating.paneIds →
        s.AcceptsSplit tab tab.focused axis candidate →
          s.environment.spawnError = none →
            perTab (splitTab candidate s.nextPaneId tab)
  | .focus _ => ∀ tab pane, s.activeTab? = some tab → tab.zoomed = none →
      pane ∈ tab.paneIds → next (tab.setFocus pane)
  | .newTab => perTab (freshTab s.nextTabId s.nextPaneId)
  | .closePane => ∀ tab, s.activeTab? = some tab → closable tab.focused
  | .toggleZoom => ∀ tab, s.activeTab? = some tab →
      perTab { tab with
        zoomed := if tab.zoomed.isSome then none else some tab.focused }
  | .newFloatingPane => ∀ tab, s.activeTab? = some tab → tab.zoomed = none →
      perTab (s.floatTab s.nextPaneId tab)
  | .toggleFloatingPanes => TabStable closable next ∧
      ∀ tab, s.activeTab? = some tab → tab.zoomed = none →
        next (toggleTabFloats tab)
  | .togglePanePinned => ∀ tab pinned, s.activeTab? = some tab →
      tab.zoomed = none → next { tab with
        floating := tab.floating.setPinned tab.focused pinned }
  | .enterCopyMode | .copyInput | .paste => InputPermitted closable s
  | .resize _ | .nextTab | .previousTab | .selectTab _
  | .enterFloatingMoveMode | .enterFloatingResizeMode => True

def AutomationPermitted (pane : PaneId) : AutomationMethod → Prop
  | .split axis => ∀ tab candidate,
      s.tabs.find? (fun tab => tab.contains pane) = some tab →
        s.AcceptsSplit tab pane axis candidate →
          s.environment.spawnError = none →
            (∀ tabId axis boundary last original,
              s.pointerDrag =
                some (.tiledBoundary tabId axis boundary last original) →
                  tabId ≠ tab.id) ∧
              perTab (splitTab candidate s.nextPaneId tab)
  | .focus => ∀ tab,
      s.tabs.find? (fun tab => tab.contains pane) = some tab →
        perTab (focusInTab pane tab)
  | .closePane => closable pane

/-- A press on a pane, after a drag in progress is restored. -/
def MousePermitted (event : MouseEvent) : Prop :=
  event.kind ≠ .move → event.kind ≠ .release →
    ∀ u, s.cancelPointerDrag true = some u →
      ∀ tab projection, u.activeTab? = some tab → u.Hits tab event projection →
        PressPermitted closable perTab u tab projection

def EventPermitted : ActorEvent → Prop
  | .client _ .input => InputPermitted closable s
  | .client _ (.mouse event) => MousePermitted closable perTab s event
  | .client _ (.action action) => ∀ u, s.settle = some u →
      ActionPermitted closable perTab next u action
  | .client _ (.automation requested allowFocused method) => ∀ pane,
      s.resolveAutomationPane requested allowFocused = .ok pane →
        AutomationPermitted closable perTab s pane method
  | .client _ (.attach ..) | .client _ (.resize _) | .client _ .detach
  | .client _ (.floatingEdit ..) | .disconnected _ => True
  | .ptyOutput pane _ answers => answers.close = true → closable pane
  | .ptyExit pane => closable pane

end Permitted

section Keeps

variable {closable : PaneId → Prop}
variable {perTab next : Tab → Prop}
variable {s t : SessionActor}

section

variable (rule : TabStable closable perTab)
include rule

theorem keeps_input
    (holds : WellPlaced closable perTab s)
    (permitted : InputPermitted closable s)
    (result : s.input = some t) : WellPlaced closable perTab t := by
  unfold input at result
  cases active : s.activeTab? with
  | none =>
      simp only [active, Option.some.injEq] at result
      exact result ▸ holds
  | some tab =>
      simp only [active] at result
      split_ifs at result with present
      · cases reaction : s.environment.reaction with
        | ignored =>
            simp only [reaction, Option.some.injEq] at result
            exact result ▸ holds
        | copyView screenChanged mediaViewChanged =>
            simp only [reaction, Option.some.injEq] at result
            rw [← result]
            have marked : WellPlaced closable perTab
                (s.markScreenChange screenChanged) := by
              unfold markScreenChange
              split_ifs
              · exact holds.core ⟨rfl, rfl, fun _ => Iff.rfl, rfl, .inr rfl, rfl,
                  rfl, List.suffix_rfl, rfl⟩
              · exact holds
            split_ifs
            · exact marked.core ⟨rfl, rfl, fun _ => Iff.rfl, rfl, .inr rfl, rfl,
                rfl, List.suffix_rfl, rfl⟩
            · exact marked.core (sameCore_scheduleRender _)
        | input failure =>
            simp only [reaction] at result
            exact keeps_reportInputFailure rule holds
              (fun failed same => permitted tab failed active (same ▸ reaction))
              result
      · rw [Option.some.injEq] at result
        exact result ▸ holds

theorem keeps_selectTab
    (holds : WellPlaced closable perTab s)
    {index : Nat}
    (inside : index < s.tabs.length)
    (result : s.selectTab index = some t) : WellPlaced closable perTab t :=
  ((WellPlaced.stable rule).relayoutFull _ t
    ⟨holds.placed.select inside, holds.refusals, holds.tabs⟩ result).1

/-- A prefix action once drag and edit mode are ended. -/
theorem keeps_runAction
    (implies : ∀ tab, perTab tab → next tab)
    (holds : WellPlaced closable perTab s)
    (idle : s.pointerDrag = none)
    {action : Action}
    (permitted : ActionPermitted closable perTab next s action)
    (result : s.runAction action = some t) :
    t.tabs = [] ∨ WellPlaced closable next t := by
  cases action with
  | split axis =>
      exact .inr ((keeps_split rule holds idle permitted result).weaken implies)
  | focus direction =>
      exact .inr (keeps_focus holds implies permitted result)
  | resize direction =>
      exact .inr ((keeps_resize rule holds result).weaken implies)
  | newTab =>
      exact .inr ((keeps_newTab rule holds idle permitted result).weaken implies)
  | nextTab | previousTab =>
      right
      simp only [runAction] at result
      split_ifs at result with vacant
      · rw [Option.some.injEq] at result
        exact result ▸ holds.weaken implies
      · rw [List.isEmpty_iff, ← List.length_eq_zero_iff] at vacant
        exact (keeps_selectTab rule holds (Nat.mod_lt _ (by omega))
          result).weaken implies
  | selectTab index =>
      right
      simp only [runAction] at result
      split_ifs at result with inside
      · exact (keeps_selectTab rule holds inside result).weaken implies
      · rw [Option.some.injEq] at result
        exact result ▸ holds.weaken implies
  | closePane =>
      right
      simp only [runAction] at result
      cases active : s.activeTab? with
      | none =>
          simp only [active, Option.some.injEq] at result
          exact result ▸ holds.weaken implies
      | some tab =>
          simp only [active] at result
          exact ((WellPlaced.stable rule).closePane (permitted tab active) s t
            holds result).1.weaken implies
  | toggleZoom =>
      exact .inr ((keeps_toggleZoom rule holds permitted result).weaken implies)
  | newFloatingPane =>
      rcases keeps_newFloat rule holds permitted result with none | kept
      · exact .inl none
      · exact .inr (kept.weaken implies)
  | toggleFloatingPanes =>
      exact .inr
        (keeps_toggleFloats permitted.1 holds implies permitted.2 result)
  | togglePanePinned =>
      simp only [runAction, Option.some.injEq] at result
      exact .inr (result ▸ keeps_togglePin holds implies permitted)
  | enterCopyMode | copyInput | paste =>
      exact .inr ((keeps_input rule holds permitted result).weaken implies)
  | enterFloatingMoveMode =>
      simp only [runAction, Option.some.injEq] at result
      exact .inr (result ▸ (keeps_enterFloatMode holds .move).weaken implies)
  | enterFloatingResizeMode =>
      simp only [runAction, Option.some.injEq] at result
      exact .inr (result ▸ (keeps_enterFloatMode holds .resize).weaken implies)

/-- Ending drag and edit mode. -/
theorem keeps_settle
    (holds : WellPlaced closable perTab s)
    (result : s.settle = some t) :
    WellPlaced closable perTab t ∧ t.pointerDrag = none ∧
      t.floatModal = none := by
  obtain ⟨u, cancelled, ended⟩ := Option.bind_eq_some_iff.mp result
  have stable := WellPlaced.stable rule
  obtain ⟨cancelledHolds, _, noDrag⟩ := stable.cancelPointerDrag holds cancelled
  obtain ⟨endedHolds, calm, noMode⟩ := stable.endFloatMode cancelledHolds ended
  exact ⟨endedHolds, calm.drag noDrag, noMode⟩

theorem keeps_automation
    (holds : WellPlaced closable perTab s)
    {requested : Option PaneId}
    {allowFocused : Bool}
    {method : AutomationMethod}
    (permitted : ∀ pane,
      s.resolveAutomationPane requested allowFocused = .ok pane →
        AutomationPermitted closable perTab s pane method)
    (result : s.automation requested allowFocused method = some t) :
    WellPlaced closable perTab t := by
  unfold automation at result
  cases resolved : s.resolveAutomationPane requested allowFocused with
  | error refused =>
      simp only [resolved, Option.some.injEq] at result
      exact result ▸ holds
  | ok pane =>
      have allowed := permitted pane resolved
      simp only [resolved] at result
      cases method with
      | split axis =>
          obtain ⟨⟨after, reply⟩, split, rfl⟩ := Option.map_eq_some_iff.mp result
          exact keeps_automationSplit rule holds
            (fun tab candidate owner accepts granted =>
              (allowed tab candidate owner accepts granted).1)
            (fun tab candidate owner accepts granted =>
              (allowed tab candidate owner accepts granted).2) split
      | focus =>
          obtain ⟨⟨after, reply⟩, focus, rfl⟩ := Option.map_eq_some_iff.mp result
          unfold automationFocus at focus
          cases position : s.tabs.findIdx? fun tab => tab.contains pane with
          | none =>
              simp only [position, Option.some.injEq, Prod.mk.injEq] at focus
              exact focus.1 ▸ holds
          | some index =>
              obtain ⟨tab, found, owner⟩ := find?_of_findIdx? position
              simp only [position, Option.bind_eq_bind, Option.bind_eq_some_iff,
                Option.pure_def, Option.some.injEq, Prod.mk.injEq] at focus
              obtain ⟨relaid, relayout, rfl, _⟩ := focus
              have focused := holds.rewriteFound (fun _ inside => inside) found
                (focusInTab pane) (samePanes_focusInTab pane tab)
                (allowed tab owner)
              obtain ⟨within, _⟩ := List.getElem?_eq_some_iff.mp found
              have inside : index < (s.modifyTab index (focusInTab
                  pane)).tabs.length := by
                simpa [modifyTab] using within
              exact ((WellPlaced.stable rule).relayoutFull _ _
                ⟨focused.placed.select inside, focused.refusals, focused.tabs⟩
                relayout).1
      | closePane =>
          exact ((WellPlaced.stable rule).closePane allowed s t holds result).1

end

/-! ## Clients come, change size and go -/

theorem reshaped_clampFloats (s : SessionActor) : Reshaped s s.clampFloats := by
  refine ⟨?_, rfl, fun _ => Iff.rfl, rfl, rfl, rfl, List.suffix_rfl⟩
  show List.Forall₂ _ s.tabs (s.tabs.map _)
  rw [List.forall₂_map_right_iff, List.forall₂_same]
  intro tab _
  exact Tab.similar_floating tab (tab.floating.classes_clampAll s.contentArea)

theorem sameCore_client
    (s : SessionActor)
    (attached : Option AttachedClient)
    (lastDisplay : DisplayMetrics)
    (forceFull : Bool)
    (sent : List (Nat × ServerMessage)) :
    SameCore s { s with attached, lastDisplay, forceFull, sent } :=
  ⟨rfl, rfl, fun _ => Iff.rfl, rfl, .inr rfl, rfl, rfl, List.suffix_rfl, rfl⟩

section

variable (rule : TabStable closable perTab)
  (holds : WellPlaced closable perTab s)
include rule holds

variable {display : DisplayMetrics} {id : Nat}

theorem keeps_attach
    {replace vivid : Bool}
    (result : s.attach id replace display vivid = some t) :
    WellPlaced closable perTab t := by
  simp only [attach, Option.bind_eq_bind, Option.bind_eq_some_iff] at result
  obtain ⟨cancelled, cancel, settled, ended, result⟩ := result
  have settledHolds := (keeps_settle rule holds
    (Option.bind_eq_some_iff.mpr ⟨cancelled, cancel, ended⟩)).1
  have toldHolds := settledHolds.core
    (sameCore_notify settled (.detached "replaced by another client"))
  generalize settled.notify (.detached "replaced by another client") = told
    at result toldHolds
  have clamped := (toldHolds.core (sameCore_client told
    (some ⟨id, normalizedDisplay display told.config.statusVisible, vivid⟩)
    (normalizedDisplay display told.config.statusVisible) told.forceFull
    told.sent)).reshape rule.similar (reshaped_clampFloats _)
  split_ifs at result with refused broken broken
  · simp only [Option.pure_def, Option.some.injEq] at result
    exact result ▸ settledHolds.core (sameCore_client settled _ _ _ _)
  · simp only [Option.pure_def, Option.some.injEq] at result
    exact result ▸ settledHolds.core (sameCore_client settled _ _ _ _)
  · simp only [Option.pure_def, Option.some.injEq] at result
    exact result ▸ clamped.core (sameCore_forceFull _ true)
  · simp only [Option.bind_eq_some_iff, Option.pure_def,
      Option.some.injEq] at result
    obtain ⟨resized, resizedEq, rfl⟩ := result
    have announced := (clamped.core (sameCore_notify _
      (.attached (!vivid)))).core (sameCore_forceFull _ true)
    exact ((WellPlaced.stable rule).resizeAll _ resized announced
      resizedEq).1.core (sameCore_scheduleRender resized)

theorem keeps_resizeHost
    (result : s.resizeHost display = some t) :
    WellPlaced closable perTab t := by
  simp only [resizeHost, Option.bind_eq_bind, Option.bind_eq_some_iff] at result
  obtain ⟨cancelled, cancel, settled, ended, result⟩ := result
  have settledHolds := (keeps_settle rule holds
    (Option.bind_eq_some_iff.mpr ⟨cancelled, cancel, ended⟩)).1
  refine ((WellPlaced.stable rule).relayoutFull _ t
    (WellPlaced.reshape ?_ rule.similar (reshaped_clampFloats _)) result).1
  split
  · exact settledHolds.core (sameCore_client settled _ _ _ _)
  · exact settledHolds

theorem keeps_detach
    (result : s.detach id = some t) : WellPlaced closable perTab t := by
  have stable := WellPlaced.stable rule
  simp only [detach, Option.bind_eq_bind, Option.bind_eq_some_iff] at result
  obtain ⟨cancelled, cancel, result⟩ := result
  have cancelledHolds := (stable.cancelPointerDrag holds cancel).1
  split_ifs at result with broken
  · simp only [Option.pure_def, Option.some.injEq] at result
    exact result ▸ cancelledHolds.core (sameCore_client cancelled _ _ _ _)
  · exact (stable.endFloatMode
      (cancelledHolds.core (sameCore_client cancelled _ _ _ _)) result).1

theorem keeps_disconnected
    (result : s.disconnected id = some t) : WellPlaced closable perTab t := by
  have stable := WellPlaced.stable rule
  unfold disconnected at result
  split_ifs at result with current
  · simp only [Option.bind_eq_bind, Option.bind_eq_some_iff] at result
    obtain ⟨cancelled, cancel, result⟩ := result
    have cancelledHolds := (stable.cancelPointerDrag holds cancel).1
    exact (stable.endFloatMode
      (cancelledHolds.core (sameCore_client cancelled _ _ _ _)) result).1
  · rw [Option.some.injEq] at result
    exact result ▸ holds

end

/-! ## The handler and the run loop -/

/-- Handling a permitted event. -/
theorem keeps_handleEvent
    (rule : TabStable closable perTab)
    (implies : ∀ tab, perTab tab → next tab)
    (holds : WellPlaced closable perTab s)
    {event : ActorEvent}
    (permitted : EventPermitted closable perTab next s event)
    (result : s.handleEvent event = some t) :
    t.tabs = [] ∨ WellPlaced closable next t := by
  have unchanged : some s = some t → t.tabs = [] ∨ WellPlaced closable next t :=
    fun same => .inr (Option.some.inj same ▸ holds.weaken implies)
  cases event with
  | client id message =>
      cases message with
      | attach replace display vivid =>
          exact .inr ((keeps_attach rule holds result).weaken implies)
      | input =>
          simp only [handleEvent, handleClient] at result
          split_ifs at result with current
          · exact .inr ((keeps_input rule holds permitted result).weaken implies)
          · exact unchanged result
      | mouse event =>
          simp only [handleEvent, handleClient] at result
          split_ifs at result with current
          · exact .inr ((keeps_mouse rule holds permitted result).weaken implies)
          · exact unchanged result
      | resize display =>
          simp only [handleEvent, handleClient] at result
          split_ifs at result with current
          · exact .inr ((keeps_resizeHost rule holds result).weaken implies)
          · exact unchanged result
      | action action =>
          simp only [handleEvent, handleClient] at result
          split_ifs at result with current
          · simp only [SessionActor.action, Option.bind_eq_bind,
              Option.bind_eq_some_iff] at result
            obtain ⟨cancelled, cancel, settled, ended, result⟩ := result
            have settle : s.settle = some settled :=
              Option.bind_eq_some_iff.mpr ⟨cancelled, cancel, ended⟩
            obtain ⟨settledHolds, idle, _⟩ := keeps_settle rule holds settle
            exact keeps_runAction rule implies settledHolds idle
              (permitted settled settle) result
          · exact unchanged result
      | detach =>
          simp only [handleEvent, handleClient] at result
          split_ifs at result with current
          · exact .inr ((keeps_detach rule holds result).weaken implies)
          · exact unchanged result
      | floatingEdit modeId command =>
          simp only [handleEvent, handleClient] at result
          split_ifs at result with current
          · exact .inr ((keeps_floatEdit rule holds result).weaken implies)
          · exact unchanged result
      | automation requested allowFocused method =>
          exact .inr ((keeps_automation rule holds permitted result).weaken implies)
  | disconnected id =>
      exact .inr ((keeps_disconnected rule holds result).weaken implies)
  | ptyOutput pane screenChanged answers =>
      simp only [handleEvent, ptyOutput] at result
      split_ifs at result with present
      · have marked : SameCore s
            (s.markScreenChange screenChanged).scheduleRender := by
          unfold markScreenChange
          split_ifs
          · exact ⟨rfl, rfl, fun _ => Iff.rfl, rfl, .inr rfl, rfl, rfl,
              List.suffix_rfl, rfl⟩
          · exact sameCore_scheduleRender s
        refine .inr ((keeps_reportInputFailure rule (holds.core marked) ?_
          result).weaken implies)
        rintro failed same close
        rw [Option.some.injEq] at same
        subst same
        exact permitted close
      · exact unchanged result
  | ptyExit pane =>
      exact .inr (((WellPlaced.stable rule).closePane permitted s t holds
        result).1.weaken implies)

/-- A session that has lost its last tab ends with every pane in its place. -/
theorem placed_finishEvent
    {perTab : Tab → Prop}
    (outcome : t.tabs = [] ∨ WellPlaced closable perTab t) :
    Placed t.finishEvent ∧ ∀ tab ∈ t.finishEvent.tabs, perTab tab := by
  unfold finishEvent
  split_ifs with vacant
  · rw [List.isEmpty_iff] at vacant
    refine ⟨⟨?_, ?_, ?_, ?_, ?_, ?_, ?_⟩, ?_⟩ <;>
      simp [layout, DragCurrent, vacant]
  · rw [List.isEmpty_iff] at vacant
    have holds := outcome.resolve_left vacant
    exact ⟨holds.placed, holds.tabs⟩

end Keeps

/-- One step of the session, from the state in which its event arrives. -/
theorem placed_sessionStep
    {closable : PaneId → Prop}
    {perTab next : Tab → Prop}
    {before after : SessionActor}
    {event : Environment × ActorEvent}
    (rule : TabStable closable perTab)
    (implies : ∀ tab, perTab tab → next tab)
    (placed : Placed before)
    (tabs : ∀ tab ∈ before.tabs, perTab tab)
    (refusals : ∀ answer ∈ event.1.resizeRefusals, ∀ pane ∈ answer,
      closable pane)
    (permitted : EventPermitted closable perTab next
      { before with environment := event.1 } event.2)
    (stepped : sessionStep before event after) :
    Placed after ∧ ∀ tab ∈ after.tabs, next tab := by
  obtain ⟨_, result⟩ := stepped
  obtain ⟨handled, handledEq, rfl⟩ := Option.map_eq_some_iff.mp result
  have arrived : WellPlaced closable perTab
      { before with environment := event.1 } :=
    ⟨{ placed with }, refusals, tabs⟩
  exact placed_finishEvent
    (keeps_handleEvent rule implies arrived permitted handledEq)

end SessionActor

end Session
end Vvmux
