import Vvmux.Session.Tab
import Vvmux.Session.Display

/-!
# The session actor's layout state

The actor is the single writer of panes, tabs, the pointer drag and the float
edit mode. What the outside world answers while one event is handled (refused
PTY resizes, a failed spawn, a broken PTY input, a failed send) is part of the
event. Abortions of the actor thread are `none`.

Relaying out resizes every visible pane, and a pane whose PTY refuses its new
size is closed, which relays out again. The functions below therefore take the
`resizeAll` they call as an argument; the next module ties the knot.
-/

namespace Vvmux
namespace Session

open Library
open Layout

structure Config where
  statusVisible : Bool
  defaultWidthPercent : Nat
  defaultHeightPercent : Nat
  borderDragMargin : Nat
  deriving DecidableEq, Repr

/-- The size of a pane's terminal grid. -/
structure Pane where
  rows : Nat
  cols : Nat
  deriving DecidableEq, Repr

inductive FloatPointerTarget
  | move
  | resize (edges : EdgeMask)
  deriving DecidableEq, Repr

/-- The top frame moves the float except in its corner regions; side and bottom
frames resize their edges. -/
def floatPointerTarget
    (rect : Rect)
    (x y borderDragMargin : Nat) : Option FloatPointerTarget :=
  if !rect.contains x y || rect.width < 2 || rect.height < 2 then none
  else
    let onLeft := x == rect.x
    let onRight := x == rect.x + rect.width - 1
    let onBottom := y == rect.y + rect.height - 1
    if y == rect.y then
      let margin := min (max borderDragMargin 1) (rect.width / 2)
      if x < rect.x + margin then
        some (.resize { left := true, top := true })
      else if rect.x + rect.width - margin ≤ x then
        some (.resize { right := true, top := true })
      else some .move
    else if onLeft || onRight || onBottom then
      some (.resize { left := onLeft, right := onRight, bottom := onBottom })
    else none

inductive PointerDrag
  | tiledBoundary
      (tabId : Nat)
      (axis : Axis)
      (boundary last : Nat)
      (original : TiledNode)
  | move (tabId : Nat) (pane : PaneId) (start : Nat × Nat) (original : Rect)
  | resize
      (tabId : Nat)
      (pane : PaneId)
      (edges : EdgeMask)
      (start : Nat × Nat)
      (original : Rect)
  deriving DecidableEq, Repr

namespace PointerDrag

def pane : PointerDrag → Option PaneId
  | .tiledBoundary .. => none
  | .move _ pane _ _ => some pane
  | .resize _ pane _ _ _ => some pane

def tabId : PointerDrag → Nat
  | .tiledBoundary tabId _ _ _ _ => tabId
  | .move tabId _ _ _ => tabId
  | .resize tabId _ _ _ _ => tabId

end PointerDrag

inductive FloatingEditKind
  | move
  | resize
  deriving DecidableEq, Repr

/-- Keyboard float-edit mode, authoritative in the actor. -/
structure FloatModal where
  modeId : Nat
  pane : PaneId
  kind : FloatingEditKind
  original : Rect
  deriving DecidableEq, Repr

structure AttachedClient where
  id : Nat
  display : DisplayMetrics
  vivid : Bool
  deriving DecidableEq, Repr

inductive ServerMessage
  | attached (textOnly : Bool)
  | detached (reason : String)
  | error (message : String)
  | status (message : String)
  | floatingEditMode
      (modeId : Nat)
      (pane : Option PaneId)
      (kind : Option FloatingEditKind)
  deriving DecidableEq, Repr

/-- A failed write to a pane's input queue. -/
structure InputFailure where
  warn : Bool
  close : Bool
  deriving DecidableEq, Repr

/-- What a pane makes of input or of a pointer event inside it, as decided by
its terminal modes and copy view: nothing, a change of the copy view, or bytes
for the PTY and whether its queue failed. -/
inductive PaneReaction
  | ignored
  | copyView (screenChanged mediaViewChanged : Bool)
  | input (failure : Option InputFailure)
  deriving DecidableEq, Repr

/-! ## Requests and events -/

inductive FloatingEditCommand
  | step (direction : Direction) (cells : Nat)
  | commit
  | cancel
  deriving DecidableEq, Repr

inductive MouseKind
  | press
  | release
  | move
  | wheel
  deriving DecidableEq, Repr

structure MouseEvent where
  button : Nat
  x : Nat
  y : Nat
  kind : MouseKind
  shift : Bool
  deriving DecidableEq, Repr

structure AutomationError where
  code : String
  message : String
  deriving DecidableEq, Repr

structure SplitReply where
  paneId : PaneId
  newPaneId : PaneId
  tabId : Nat
  sessionSequence : Nat
  deriving DecidableEq, Repr

inductive AutomationMethod
  | split (axis : Axis)
  | focus
  | closePane
  deriving DecidableEq, Repr

inductive Action
  | split (axis : Axis)
  | focus (direction : Direction)
  | resize (direction : Direction)
  | newTab
  | nextTab
  | previousTab
  | selectTab (index : Nat)
  | closePane
  | toggleZoom
  | enterCopyMode
  | copyInput
  | paste
  | newFloatingPane
  | toggleFloatingPanes
  | togglePanePinned
  | enterFloatingMoveMode
  | enterFloatingResizeMode
  deriving DecidableEq, Repr

inductive ClientMessage
  | attach (replace : Bool) (display : DisplayMetrics) (vivid : Bool)
  | input
  | mouse (event : MouseEvent)
  | resize (display : DisplayMetrics)
  | action (action : Action)
  | detach
  | floatingEdit (modeId : Nat) (command : FloatingEditCommand)
  | automation
      (requested : Option PaneId)
      (allowFocused : Bool)
      (method : AutomationMethod)
  deriving DecidableEq, Repr

/-- Terminal output is described by what it does outside the terminal: whether
the screen changed and how writing the terminal's answers back went. -/
inductive ActorEvent
  | client (id : Nat) (message : ClientMessage)
  | disconnected (id : Nat)
  | ptyOutput (pane : PaneId) (screenChanged : Bool) (answers : InputFailure)
  | ptyExit (pane : PaneId)
  deriving DecidableEq, Repr

/-! ## State -/

/-- Answers of the outside world while one event is handled. The `k`-th list of
`resizeRefusals` names the panes whose PTY would refuse the `k`-th resize
request; requests past the end are granted. -/
structure Environment where
  resizeRefusals : List (List PaneId) := []
  spawnError : Option String := none
  reaction : PaneReaction := .ignored
  sendFails : Bool := false
  deriving DecidableEq, Repr

structure SessionActor where
  config : Config
  panes : OrderedMap PaneId Pane
  tabs : List Tab
  activeTab : Nat
  attached : Option AttachedClient
  lastDisplay : DisplayMetrics
  nextPaneId : PaneId
  nextTabId : Nat
  forceFull : Bool
  pendingRender : Bool
  layoutRevision : Nat
  pointerDrag : Option PointerDrag
  floatModal : Option FloatModal
  nextFloatMode : Nat
  sessionSequence : Nat
  /-- Messages sent to clients, oldest first. -/
  sent : List (Nat × ServerMessage)
  environment : Environment
  deriving DecidableEq

/-- Addition modulo the 64-bit range. -/
def wrappingAdd (left right : Nat) : Nat := (left + right) % (u64Max + 1)

namespace SessionActor

/-- A detached session keeps the last attached host's metrics. -/
def layoutDisplay (s : SessionActor) : DisplayMetrics :=
  match s.attached with
  | some client => client.display
  | none => s.lastDisplay

def contentArea (s : SessionActor) : Rect :=
  areaOfDisplay s.layoutDisplay s.config.statusVisible

def activeTab? (s : SessionActor) : Option Tab := s.tabs[s.activeTab]?

/-- Rewrite the tab at an index, if there is one. -/
def modifyTab (s : SessionActor) (index : Nat) (change : Tab → Tab) :
    SessionActor :=
  { s with tabs := s.tabs.modify index change }

def modifyActiveTab (s : SessionActor) (change : Tab → Tab) : SessionActor :=
  s.modifyTab s.activeTab change

def scheduleRender (s : SessionActor) : SessionActor :=
  { s with pendingRender := true }

/-- Visibility, z-order, pin and focus changes refresh the projection without
resizing any PTY. -/
def projectionChanged (s : SessionActor) : SessionActor :=
  { s with
    layoutRevision := wrappingAdd s.layoutRevision 1
    sessionSequence := wrappingAdd s.sessionSequence 1
    pendingRender := true }

/-- Send a message to the attached client, if there is one. -/
def notify (s : SessionActor) (message : ServerMessage) : SessionActor :=
  match s.attached with
  | some client => { s with sent := s.sent ++ [(client.id, message)] }
  | none => s

def status (s : SessionActor) (message : String) : SessionActor :=
  s.notify (.status message)

/-- Spawn a pane with an 80 by 22 terminal, unless the environment refuses. -/
def spawnPane (s : SessionActor) (paneId : PaneId) :
    Except String SessionActor :=
  match s.environment.spawnError with
  | some error => .error error
  | none => .ok { s with panes := s.panes.insert paneId ⟨22, 80⟩ }

/-! ## Resizing every visible pane -/

/-- Progress of one pass over the visible projections. -/
structure ResizePass where
  panes : OrderedMap PaneId Pane
  resizeRefusals : List (List PaneId)
  failures : List PaneId
  resizedPanes : Nat

/-- Resize one projected pane's terminal and PTY when its content size has
changed. -/
def ResizePass.visit
    (pass : ResizePass)
    (projection : PaneProjection) : ResizePass :=
  match pass.panes.find? projection.paneId with
  | none => pass
  | some pane =>
      let content := projection.content
      if pane.rows = content.height ∧ pane.cols = content.width then pass
      else
        let refused := (pass.resizeRefusals.headD []).contains projection.paneId
        { panes := pass.panes.insert projection.paneId
            ⟨content.height, content.width⟩
          resizeRefusals := pass.resizeRefusals.tail
          failures :=
            if refused then pass.failures ++ [projection.paneId]
            else pass.failures
          resizedPanes := wrappingAdd pass.resizedPanes 1 }

/-- Panes in ascending order without repetition. -/
def sortedFailures (failures : List PaneId) : List PaneId :=
  (failures.insertionSort (· ≤ ·)).dedup

/-- One pass over all tabs, with the panes whose PTY refused. -/
def resizePanes (s : SessionActor) :
    Option (SessionActor × List PaneId) := do
  let projections ← s.tabs.mapM fun tab => tab.visibleProjections s.contentArea
  let pass := projections.flatten.foldl ResizePass.visit
    ⟨s.panes, s.environment.resizeRefusals, [], 0⟩
  return ({ s with
      panes := pass.panes
      environment :=
        { s.environment with resizeRefusals := pass.resizeRefusals }
      sessionSequence := wrappingAdd s.sessionSequence pass.resizedPanes },
    sortedFailures pass.failures)

/-- Resize everything, then close the panes that failed, in ascending order. -/
def resizeAllWith
    (close : SessionActor → PaneId → Option SessionActor)
    (s : SessionActor) : Option SessionActor := do
  let (s, failures) ← s.resizePanes
  failures.foldlM
    (fun s pane => close (s.status s!"pane {pane} PTY resize failed") pane) s

section Relayout

variable (resizeAll : SessionActor → Option SessionActor)

def relayoutWith (s : SessionActor) : Option SessionActor := do
  let s ← resizeAll { s with
    layoutRevision := wrappingAdd s.layoutRevision 1
    sessionSequence := wrappingAdd s.sessionSequence 1 }
  return s.scheduleRender

/-- Write a changed layout: force a full frame and relay out. -/
def relayoutFullWith (s : SessionActor) : Option SessionActor :=
  relayoutWith resizeAll { s with forceFull := true }

/-- Put the press-time tree or rectangle of a drag back into the tab it was
taken from; reports whether that changed anything. -/
def restoreDrag (s : SessionActor) (drag : PointerDrag) : SessionActor × Bool :=
  match s.tabs.findIdx? fun tab => tab.id == drag.tabId with
  | none => (s, false)
  | some index =>
      match s.tabs[index]? with
      | none => (s, false)
      | some tab =>
          match drag with
          | .tiledBoundary _ _ _ _ original =>
              if tab.tree = some original then (s, false)
              else (s.modifyTab index fun tab =>
                { tab with tree := some original }, true)
          | .move _ pane _ original | .resize _ pane _ _ original =>
              let restored := tab.floating.setRect pane original s.contentArea
              (s.modifyTab index fun tab =>
                { tab with floating := restored.1 }, restored.2)

/-- Forget the drag; when asked to, restore its press-time state. -/
def cancelPointerDragWith (restore : Bool) (s : SessionActor) :
    Option SessionActor :=
  match s.pointerDrag with
  | none => some s
  | some drag =>
      let s := { s with pointerDrag := none }
      if !restore then some s
      else
        let restored := s.restoreDrag drag
        if restored.2 then relayoutFullWith resizeAll restored.1
        else some restored.1

/-- Put the entry rectangle of an edit mode back; reports a change. -/
def restoreModal (s : SessionActor) (modal : FloatModal) :
    SessionActor × Bool :=
  match s.tabs.findIdx? fun tab => tab.floating.contains modal.pane with
  | none => (s, false)
  | some index =>
      match s.tabs[index]? with
      | none => (s, false)
      | some tab =>
          let restored :=
            tab.floating.setRect modal.pane modal.original s.contentArea
          (s.modifyTab index fun tab =>
            { tab with floating := restored.1 }, restored.2)

/-- End the float-edit mode; when asked to, restore the entry rectangle. -/
def endFloatModeWith (restore : Bool) (s : SessionActor) :
    Option SessionActor :=
  match s.floatModal with
  | none => some s
  | some modal =>
      let s := { s with floatModal := none }
      let restored := s.restoreModal modal
      (if !restore then some s
        else if restored.2 then relayoutFullWith resizeAll restored.1
        else some restored.1).map fun s =>
          s.notify (.floatingEditMode modal.modeId none none)

/-- Remove a pane from a tab and the tab itself when that empties it. -/
def removeFromTab (s : SessionActor) (index : Nat) (paneId : PaneId) :
    SessionActor :=
  match s.tabs[index]? with
  | none => s
  | some tab =>
      let removed := tab.removePane paneId
      if removed.isEmpty then { s with tabs := s.tabs.eraseIdx index }
      else s.modifyTab index fun _ => removed.refocus paneId

/-- Keep the active index inside the tab list. -/
def clampActiveTab (s : SessionActor) : SessionActor :=
  if s.tabs.length ≤ s.activeTab then
    { s with activeTab := s.tabs.length - 1 }
  else s

/-- A close restores a drag unless the dragged float itself closes. -/
def cancelDragForClose (paneId : PaneId) (s : SessionActor) :
    Option SessionActor :=
  match s.pointerDrag with
  | some drag => cancelPointerDragWith resizeAll (drag.pane != some paneId) s
  | none => some s

/-- A close restores an edit mode unless the edited float itself closes. -/
def endModeForClose (paneId : PaneId) (s : SessionActor) :
    Option SessionActor :=
  match s.floatModal with
  | some modal => endFloatModeWith resizeAll (modal.pane != paneId) s
  | none => some s

/-- Remove a pane from the session and from the first tab that holds it. -/
def removePaneWith (s : SessionActor) (paneId : PaneId) : Option SessionActor :=
  let s := { s with panes := s.panes.erase paneId }
  match s.tabs.findIdx? fun tab => tab.contains paneId with
  | none => some s
  | some index =>
      relayoutFullWith resizeAll (s.removeFromTab index paneId).clampActiveTab

def closePaneWith (s : SessionActor) (paneId : PaneId) :
    Option SessionActor := do
  let s ← cancelDragForClose resizeAll paneId s
  let s ← endModeForClose resizeAll paneId s
  removePaneWith resizeAll s paneId

end Relayout

end SessionActor

end Session
end Vvmux
