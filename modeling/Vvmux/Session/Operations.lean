import Vvmux.Library.Machine
import Vvmux.Session.Actor

/-!
# The session actor's operations

Closing panes and relaying out call each other. A nested close happens only for
a pane whose PTY refused a resize, and every refusal consumes an answer of the
environment, so the number of remaining answers bounds the nesting. The
operations and the event handler follow.
-/

namespace Vvmux
namespace Session

open Library
open Layout

namespace SessionActor

/-- Relaying out with at most `fuel` levels of nested closes. -/
def resizeAllFuel : Nat → SessionActor → Option SessionActor
  | 0 => resizeAllWith fun _ _ => none
  | fuel + 1 => resizeAllWith (closePaneWith (resizeAllFuel fuel))

def resizeAll (s : SessionActor) : Option SessionActor :=
  resizeAllFuel s.environment.resizeRefusals.length s

def relayout (s : SessionActor) : Option SessionActor := relayoutWith resizeAll s

def relayoutFull (s : SessionActor) : Option SessionActor :=
  relayoutFullWith resizeAll s

def cancelPointerDrag (restore : Bool) (s : SessionActor) :
    Option SessionActor :=
  cancelPointerDragWith resizeAll restore s

def endFloatMode (restore : Bool) (s : SessionActor) : Option SessionActor :=
  endFloatModeWith resizeAll restore s

def closePane (s : SessionActor) (paneId : PaneId) : Option SessionActor :=
  closePaneWith resizeAll s paneId

/-! ## Panes and tabs -/

/-- A tab with one tiled pane. -/
def freshTab (tabId : Nat) (paneId : PaneId) : Tab where
  id := tabId
  tree := some (.leaf paneId)
  floating := {}
  focused := paneId
  lastFocusedTiled := some paneId
  zoomed := none

def newTab (s : SessionActor) : Except String SessionActor := do
  let s ← s.spawnPane s.nextPaneId
  return ({ s with
    nextPaneId := s.nextPaneId + 1
    tabs := s.tabs ++ [freshTab s.nextTabId s.nextPaneId]
    nextTabId := s.nextTabId + 1 }).scheduleRender

def split (s : SessionActor) (axis : Axis) : Option SessionActor :=
  match s.activeTab? with
  | none => some s
  | some tab =>
      match tab.tree with
      | none => some (s.status "no tiled pane to split")
      | some tree =>
          if tab.floating.contains tab.focused then
            some (s.status "cannot split a floating pane")
          else do
            let paneId := s.nextPaneId
            match ← tree.splitPane tab.focused paneId axis s.contentArea with
            | .error _ => some (s.status "pane is too small to split")
            | .ok candidate =>
                match s.spawnPane paneId with
                | .error _ => some (s.status "could not spawn shell")
                | .ok s =>
                    ({ s with nextPaneId := s.nextPaneId + 1 }.modifyActiveTab
                      fun tab =>
                        ({ tab with tree := some candidate }).setFocus
                          paneId).relayout

def focus (s : SessionActor) (direction : Direction) : Option SessionActor :=
  match s.activeTab? with
  | none => some s
  | some tab =>
      if tab.zoomed.isSome then some s
      else do
        let projections ← tab.visibleProjections s.contentArea
        match directionalFocus projections tab.focused direction with
        | none => some s
        | some next =>
            some { s.modifyActiveTab (fun tab => tab.setFocus next) with
              forceFull := true }.projectionChanged

def resize (s : SessionActor) (direction : Direction) : Option SessionActor :=
  match s.activeTab? with
  | none => some s
  | some tab =>
      if tab.zoomed.isSome then some s
      else if tab.floating.contains tab.focused then
        some (s.status
          "floating panes resize with the resize mode or the mouse")
      else
        match tab.tree with
        | none => some s
        | some tree => do
            let (tree, changed) ←
              tree.resize tab.focused direction s.contentArea
            let s := s.modifyActiveTab fun tab => { tab with tree := some tree }
            if changed then s.relayout else some s

def newFloat (s : SessionActor) : Option SessionActor :=
  if s.activeTab?.any fun tab => tab.zoomed.isSome then
    some (s.status "unzoom before creating a floating pane")
  else
    let paneId := s.nextPaneId
    match s.spawnPane paneId with
    | .error _ => some (s.status "could not spawn shell")
    | .ok s =>
        ({ s with nextPaneId := s.nextPaneId + 1 }.modifyActiveTab fun tab =>
          ({ tab with
            floating := tab.floating.insert paneId s.contentArea
              s.config.defaultWidthPercent
              s.config.defaultHeightPercent }).setFocus paneId).relayoutFull

/-- Flip the visibility of the ordinary class; a hidden focus moves to the
fallback. -/
def toggleTabFloats (tab : Tab) : Tab :=
  let tab := { tab with
    floating := { tab.floating with
      ordinaryVisible := !tab.floating.ordinaryVisible } }
  let focusedHidden := !tab.floating.ordinaryVisible &&
    (tab.floating.get tab.focused).any fun float => !float.pinned
  if focusedHidden then
    match tab.fallbackFocus with
    | some next => tab.setFocus next
    | none => tab
  else tab

def toggleFloats (s : SessionActor) : Option SessionActor :=
  if s.activeTab?.any fun tab => tab.zoomed.isSome then
    some (s.status "unzoom before changing floating pane visibility")
  else if s.activeTab?.all fun tab => tab.floating.isEmpty then
    some (s.status "no floating panes in this tab")
  else (s.modifyActiveTab toggleTabFloats).relayoutFull

def togglePin (s : SessionActor) : SessionActor :=
  match s.activeTab? with
  | none => s
  | some tab =>
      if tab.zoomed.isSome then s.status "unzoom before pinning a pane"
      else
        match tab.floating.get tab.focused with
        | none => s.status "only floating panes can be pinned"
        | some float =>
            { s.modifyActiveTab (fun tab =>
                { tab with
                  floating :=
                    tab.floating.setPinned tab.focused !float.pinned }) with
              forceFull := true }.projectionChanged

def toggleZoom (s : SessionActor) : Option SessionActor :=
  match s.activeTab? with
  | none => some s
  | some _ =>
      (s.modifyActiveTab fun tab =>
        { tab with
          zoomed := if tab.zoomed.isSome then none
            else some tab.focused }).relayoutFull

/-! ## Float edit mode -/

def enterFloatMode (s : SessionActor) (kind : FloatingEditKind) :
    SessionActor :=
  match s.activeTab? with
  | none => s
  | some tab =>
      if tab.zoomed.isSome then
        s.status "unzoom before editing a floating pane"
      else
        match tab.floating.get tab.focused with
        | none => s.status "only floating panes can be moved or resized"
        | some float =>
            if s.nextFloatMode < u64Max then
              let modeId := s.nextFloatMode + 1
              ({ s with
                nextFloatMode := modeId
                floatModal := some ⟨modeId, float.paneId, kind, float.rect⟩
                }).notify
                (.floatingEditMode modeId (some float.paneId) (some kind))
            else s.status "floating edit mode ID space exhausted"

/-- Offset of one keyboard edit step. -/
def stepOffset (direction : Direction) (cells : Nat) : Int × Int :=
  match direction with
  | .left => (-cells, 0)
  | .right => (cells, 0)
  | .up => (0, -cells)
  | .down => (0, cells)

def floatEdit
    (s : SessionActor)
    (modeId : Nat)
    (command : FloatingEditCommand) : Option SessionActor :=
  match s.floatModal with
  | none => some s
  | some modal =>
      -- A command from an already-ended mode raced its cancellation.
      if modal.modeId ≠ modeId then some s
      else
        match command with
        | .commit => s.endFloatMode false
        | .cancel => s.endFloatMode true
        | .step direction cells =>
            if cells ≠ 1 ∧ cells ≠ 5 then s.endFloatMode true
            else
              let (dx, dy) := stepOffset direction cells
              match s.activeTab? with
              | none => some s
              | some tab =>
                  let edited := match modal.kind with
                    | .move =>
                        tab.floating.moveBy modal.pane dx dy s.contentArea
                    | .resize =>
                        -- The top-left corner stays: both far edges move.
                        tab.floating.resizeBy modal.pane
                          { right := true, bottom := true } dx dy s.contentArea
                  let s := s.modifyActiveTab fun tab =>
                    { tab with floating := edited.1 }
                  if edited.2 then s.relayoutFull else some s

/-! ## Pointer -/

/-- Move the border at a column or row by one cell, if some pane touches it. -/
def resizeBoundary
    (s : SessionActor)
    (axis : Axis)
    (boundary : Nat)
    (positive : Bool) : Option (SessionActor × Bool) :=
  match s.activeTab? with
  | none => some (s, false)
  | some tab =>
      match tab.tree with
      | none => some (s, false)
      | some tree => do
          let geometry ← tree.geometry s.contentArea
          let candidate := geometry.entries.findSome? fun (pane, rect) =>
            match axis, positive with
            | .vertical, true =>
                if rect.x + rect.width = boundary then
                  some (pane, Direction.right) else none
            | .vertical, false =>
                if rect.x = boundary then some (pane, .left) else none
            | .horizontal, true =>
                if rect.y + rect.height = boundary then
                  some (pane, .down) else none
            | .horizontal, false =>
                if rect.y = boundary then some (pane, .up) else none
          match candidate with
          | none => some (s, false)
          | some (pane, direction) => do
              let (tree, changed) ← tree.resize pane direction s.contentArea
              return (s.modifyActiveTab fun tab =>
                { tab with tree := some tree }, changed)

/-- Follow the pointer for at most `distance` cells, stopping at the first
border move that is refused. -/
def followBoundary
    (axis : Axis)
    (positive : Bool) :
    Nat → SessionActor → Nat → Nat → Option (SessionActor × Nat × Nat × Bool)
  | 0, s, boundary, last => some (s, boundary, last, false)
  | distance + 1, s, boundary, last => do
      let (s, moved) ← s.resizeBoundary axis boundary positive
      if moved then
        let next := if positive then boundary + 1 else boundary - 1
        let reached := if positive then last + 1 else last - 1
        let (s, boundary, last, _) ←
          followBoundary axis positive distance s next reached
        return (s, boundary, last, true)
      else return (s, boundary, last, false)

/-- One pointer move of a tiled border drag. -/
def dragBoundary
    (s : SessionActor)
    (axis : Axis)
    (boundary last current : Nat) :
    Option (SessionActor × Nat × Nat × Bool) := do
  let (s, boundary, last, forward) ←
    followBoundary axis true (current - last) s boundary last
  let (s, boundary, last, backward) ←
    followBoundary axis false (last - current) s boundary last
  return (s, boundary, last, forward || backward)

def updatePointerDrag (s : SessionActor) (mouse : MouseEvent) :
    Option SessionActor :=
  match s.pointerDrag with
  | none => some s
  | some drag =>
      match s.activeTab? with
      | none => s.cancelPointerDrag true
      | some tab =>
          if tab.id ≠ drag.tabId then s.cancelPointerDrag true
          else
            match drag with
            | .tiledBoundary tabId axis boundary last original => do
                let current := match axis with
                  | .vertical => mouse.x
                  | .horizontal => mouse.y
                let (s, boundary, last, changed) ←
                  { s with pointerDrag := none }.dragBoundary
                    axis boundary last current
                let s := { s with
                  pointerDrag :=
                    some (.tiledBoundary tabId axis boundary last original) }
                if changed then s.relayout else some s
            | .move _ pane start original =>
                let moved := tab.floating.moveFrom pane original
                  (mouse.x - start.1) (mouse.y - start.2) s.contentArea
                let s := s.modifyActiveTab fun tab =>
                  { tab with floating := moved.1 }
                if moved.2 then s.relayoutFull else some s
            | .resize _ pane edges start original =>
                let moved := tab.floating.resizeFrom pane original edges
                  (mouse.x - start.1) (mouse.y - start.2) s.contentArea
                let s := s.modifyActiveTab fun tab =>
                  { tab with floating := moved.1 }
                if moved.2 then s.relayoutFull else some s

def reportInputFailure
    (s : SessionActor)
    (paneId : PaneId)
    (failure : Option InputFailure) : Option SessionActor :=
  match failure with
  | none => some s
  | some failure =>
      let s := if failure.warn then
          s.status s!"pane {paneId} input queue is unavailable"
        else s
      if failure.close then s.closePane paneId else some s

/-- The end of a press inside a pane's content: application mouse input, a
scroll of the copy view, or nothing. -/
def mouseContent
    (s : SessionActor)
    (paneId : PaneId)
    (rect : Rect)
    (mouse : MouseEvent) : Option SessionActor :=
  if !rect.content.contains mouse.x mouse.y then some s.scheduleRender
  else if paneId ∉ s.panes then some s
  else
    match s.environment.reaction with
    | .ignored => some s
    | .copyView _ mediaViewChanged =>
        some (if mediaViewChanged then s.projectionChanged
          else s.scheduleRender)
    | .input failure => s.reportInputFailure paneId failure

/-- The end of a press once the pane has the focus: start a drag or pass the
event on to the pane. -/
def pressFocused
    (s : SessionActor)
    (tab : Tab)
    (projection : PaneProjection)
    (mouse : MouseEvent) : Option SessionActor :=
  let paneId := projection.paneId
  let rect := projection.outer
  let onVertical :=
    mouse.x == rect.x || mouse.x + 1 == rect.x + rect.width
  let onHorizontal :=
    mouse.y == rect.y || mouse.y + 1 == rect.y + rect.height
  if projection.layer ≠ .tiled then
    match (if mouse.kind = .press ∧ mouse.button = 0 ∧ !mouse.shift then
        floatPointerTarget rect mouse.x mouse.y s.config.borderDragMargin
      else none) with
    | some .move =>
        some { s with
          pointerDrag := some
            (.move tab.id paneId (mouse.x, mouse.y) rect) }.scheduleRender
    | some (.resize edges) =>
        some { s with
          pointerDrag := some (.resize tab.id paneId edges
            (mouse.x, mouse.y) rect) }.scheduleRender
    | none => s.mouseContent paneId rect mouse
  else if mouse.kind = .press ∧ mouse.button = 0 ∧
      (onVertical || onHorizontal) then
    let axis := if onVertical then Axis.vertical else .horizontal
    let boundary := if onVertical then mouse.x else mouse.y
    match tab.tree with
    | none => some s
    | some original =>
        some { s with
          pointerDrag := some (.tiledBoundary tab.id axis boundary boundary
            original) }.scheduleRender
  else s.mouseContent paneId rect mouse

/-- Focus the pressed pane of the active tab. -/
def focusPressed
    (s : SessionActor)
    (focusChanged : Bool)
    (projection : PaneProjection) : SessionActor :=
  let raised := projection.layer != .tiled && focusChanged
  let s := s.modifyActiveTab fun tab => tab.setFocus projection.paneId
  if focusChanged then
    { s with forceFull := s.forceFull || raised }.projectionChanged
  else s

/-- A press or wheel event on the visually topmost pane under the pointer.
`tab` is the active tab as it was before an edit mode is ended. -/
def pressPane
    (s : SessionActor)
    (tab : Tab)
    (projection : PaneProjection)
    (mouse : MouseEvent) : Option SessionActor :=
  let focusChanged := tab.focused != projection.paneId
  (if focusChanged then s.endFloatMode true else some s).bind fun s =>
    (s.focusPressed focusChanged projection).pressFocused tab projection mouse

/-- Top-down hit testing over the projections that composition paints. -/
def mousePress (s : SessionActor) (mouse : MouseEvent) : Option SessionActor :=
  if mouse.kind = .move ∨ mouse.kind = .release then some s
  else
    match s.activeTab? with
    | none => some s
    | some tab => do
        let projections ← tab.visibleProjections s.contentArea
        match projections.reverse.find? fun projection =>
            projection.outer.contains mouse.x mouse.y with
        | none => some s
        | some projection => s.pressPane tab projection mouse

def mouse (s : SessionActor) (mouse : MouseEvent) : Option SessionActor :=
  if s.pointerDrag.isSome then
    if mouse.kind = .release ∧ !mouse.shift ∧ mouse.button = 0 then
      -- A valid left-button release commits the live rectangle or tree.
      some { s with pointerDrag := none }
    else if mouse.kind = .move ∧ !mouse.shift ∧ mouse.button = 0 then
      s.updatePointerDrag mouse
    else do
      let s ← s.cancelPointerDrag true
      s.mousePress mouse
  else s.mousePress mouse

/-! ## Automation -/

/-- Split a pane on behalf of an automation client. An active pointer drag stays
as it is. -/
def automationSplit
    (s : SessionActor)
    (paneId : PaneId)
    (axis : Axis) : Option (SessionActor × Except AutomationError SplitReply) :=
  match s.tabs.findIdx? fun tab => tab.contains paneId with
  | none =>
      some (s, .error ⟨"pane_not_found", "pane has no owning tab"⟩)
  | some index =>
      match s.tabs[index]? with
      | none =>
          some (s, .error ⟨"pane_not_found", "pane has no owning tab"⟩)
      | some tab =>
          match tab.tree with
          | none =>
              some (s, .error ⟨"unsupported", "tab has no tiled layout"⟩)
          | some tree =>
              if !tree.contains paneId then
                some (s, .error
                  ⟨"unsupported", "floating panes cannot be split"⟩)
              else do
                let newPaneId := s.nextPaneId
                match ← tree.splitPane paneId newPaneId axis s.contentArea with
                | .error _ =>
                    some (s, .error
                      ⟨"invalid_state", "pane is too small to split"⟩)
                | .ok candidate =>
                    match s.spawnPane newPaneId with
                    | .error message =>
                        some (s, .error ⟨"pty_spawn_failed", message⟩)
                    | .ok s => do
                        let s := { s with nextPaneId := s.nextPaneId + 1 }
                        let s := s.modifyTab index fun tab =>
                          ({ tab with tree := some candidate }).setFocus
                            newPaneId
                        let s ← s.relayoutFull
                        return (s, .ok
                          ⟨paneId, newPaneId, tab.id, s.sessionSequence⟩)

/-- Focus a pane wherever it is: show its class, drop a foreign zoom. -/
def focusInTab (paneId : PaneId) (tab : Tab) : Tab :=
  let tab := if (tab.floating.get paneId).any fun float => !float.pinned then
      { tab with floating := { tab.floating with ordinaryVisible := true } }
    else tab
  let tab := if tab.zoomed.any fun zoomed => zoomed != paneId then
      { tab with zoomed := none }
    else tab
  tab.setFocus paneId

def automationFocus (s : SessionActor) (paneId : PaneId) :
    Option (SessionActor × Except AutomationError Unit) :=
  match s.tabs.findIdx? fun tab => tab.contains paneId with
  | none =>
      some (s, .error ⟨"pane_not_found", "pane has no owning tab"⟩)
  | some index => do
      let s := s.modifyTab index (focusInTab paneId)
      let s ← { s with activeTab := index }.relayoutFull
      return (s, .ok ())

def resolveAutomationPane
    (s : SessionActor)
    (requested : Option PaneId)
    (allowFocused : Bool) : Except AutomationError PaneId :=
  match requested with
  | some pane =>
      if pane ∈ s.panes then .ok pane
      else .error ⟨"pane_not_found", s!"pane {pane} does not exist"⟩
  | none =>
      if allowFocused then
        match s.activeTab? with
        | some tab =>
            if tab.focused ∈ s.panes then .ok tab.focused
            else .error ⟨"no_focused_pane", "no focused vvmux pane"⟩
        | none => .error ⟨"no_focused_pane", "no focused vvmux pane"⟩
      else .error ⟨"invalid_params", "this command requires a pane ID"⟩

/-- The layout effect of an automation request; a pane that cannot be resolved
refuses it. -/
def automation
    (s : SessionActor)
    (requested : Option PaneId)
    (allowFocused : Bool)
    (method : AutomationMethod) : Option SessionActor :=
  match s.resolveAutomationPane requested allowFocused with
  | .error _ => some s
  | .ok paneId =>
      match method with
      | .split axis => (s.automationSplit paneId axis).map Prod.fst
      | .focus => (s.automationFocus paneId).map Prod.fst
      | .closePane => s.closePane paneId

/-! ## Events -/

/-- Select a tab index and repaint. -/
def selectTab (s : SessionActor) (index : Nat) : Option SessionActor :=
  { s with activeTab := index }.relayoutFull

/-- Count a change of a pane's visible screen. -/
def markScreenChange (s : SessionActor) (changed : Bool) : SessionActor :=
  if changed then
    { s with sessionSequence := wrappingAdd s.sessionSequence 1 }
  else s

/-- Input bytes, copy-mode keys or a paste for the focused pane. -/
def input (s : SessionActor) : Option SessionActor :=
  match s.activeTab? with
  | none => some s
  | some tab =>
      if tab.focused ∉ s.panes then some s
      else
        match s.environment.reaction with
        | .ignored => some s
        | .copyView screenChanged mediaViewChanged =>
            let s := s.markScreenChange screenChanged
            some (if mediaViewChanged then s.projectionChanged
              else s.scheduleRender)
        | .input failure => s.reportInputFailure tab.focused failure

/-- What a prefix action does once the drag and the edit mode are ended. -/
def runAction (s : SessionActor) : Action → Option SessionActor
  | .split axis => s.split axis
  | .focus direction => s.focus direction
  | .resize direction => s.resize direction
  | .newTab =>
      match s.newTab with
      | .ok s => { s with activeTab := s.tabs.length - 1 }.relayout
      | .error _ => some s
  | .nextTab =>
      if s.tabs.isEmpty then some s
      else s.selectTab ((s.activeTab + 1) % s.tabs.length)
  | .previousTab =>
      if s.tabs.isEmpty then some s
      else s.selectTab ((s.activeTab + s.tabs.length - 1) % s.tabs.length)
  | .selectTab index =>
      if index < s.tabs.length then s.selectTab index else some s
  | .closePane =>
      match s.activeTab? with
      | some tab => s.closePane tab.focused
      | none => some s
  | .toggleZoom => s.toggleZoom
  | .newFloatingPane => s.newFloat
  | .toggleFloatingPanes => s.toggleFloats
  | .togglePanePinned => some s.togglePin
  | .enterCopyMode | .copyInput | .paste => s.input
  | .enterFloatingMoveMode => some (s.enterFloatMode .move)
  | .enterFloatingResizeMode => some (s.enterFloatMode .resize)

/-- Any prefix action first restores a pointer drag and an edit mode. -/
def action (s : SessionActor) (action : Action) : Option SessionActor := do
  let s ← s.cancelPointerDrag true
  let s ← s.endFloatMode true
  s.runAction action

/-- Clamp every float of every tab into the content area. -/
def clampFloats (s : SessionActor) : SessionActor :=
  let area := s.contentArea
  { s with tabs := s.tabs.map fun tab =>
      { tab with floating := tab.floating.clampAll area } }

def clientIs (s : SessionActor) (id : Nat) : Bool :=
  s.attached.any fun client => client.id == id

def attach
    (s : SessionActor)
    (id : Nat)
    (replace : Bool)
    (display : DisplayMetrics)
    (vivid : Bool) : Option SessionActor := do
  let s ← s.cancelPointerDrag true
  let s ← s.endFloatMode true
  if s.attached.isSome && !replace then
    if s.environment.sendFails then return { s with forceFull := true }
    else return { s with sent := s.sent ++
      [(id, .error "session already has an attached client")] }
  else
    let s := s.notify (.detached "replaced by another client")
    let display := normalizedDisplay display s.config.statusVisible
    let s := { s with
      lastDisplay := display
      attached := some ⟨id, display, vivid⟩ }
    let s := s.clampFloats
    -- A failed send leaves the event handler before the panes are resized.
    if s.environment.sendFails then
      return { s with forceFull := true }
    else
      let s := s.notify (.attached (!vivid))
      let s ← { s with forceFull := true }.resizeAll
      return s.scheduleRender

def resizeHost (s : SessionActor) (display : DisplayMetrics) :
    Option SessionActor := do
  let s ← s.cancelPointerDrag true
  let s ← s.endFloatMode true
  let s := match s.attached with
    | some client =>
        let display := normalizedDisplay display s.config.statusVisible
        { s with
          attached := some { client with display }
          lastDisplay := display }
    | none => s
  s.clampFloats.relayoutFull

def detach (s : SessionActor) (id : Nat) : Option SessionActor := do
  let s ← s.cancelPointerDrag true
  if s.environment.sendFails then return { s with forceFull := true }
  else
    ({ s with
      sent := s.sent ++ [(id, ServerMessage.detached "detached")]
      attached := none }).endFloatMode true

def disconnected (s : SessionActor) (id : Nat) : Option SessionActor :=
  if s.clientIs id then do
    let s ← s.cancelPointerDrag true
    { s with attached := none, forceFull := true }.endFloatMode true
  else some s

def handleClient (s : SessionActor) (id : Nat) : ClientMessage →
    Option SessionActor
  | .attach replace display vivid => s.attach id replace display vivid
  | .input => if s.clientIs id then s.input else some s
  | .mouse event => if s.clientIs id then s.mouse event else some s
  | .resize display => if s.clientIs id then s.resizeHost display else some s
  | .action action => if s.clientIs id then s.action action else some s
  | .detach => if s.clientIs id then s.detach id else some s
  | .floatingEdit modeId command =>
      if s.clientIs id then s.floatEdit modeId command else some s
  | .automation requested allowFocused method =>
      s.automation requested allowFocused method

def ptyOutput
    (s : SessionActor)
    (pane : PaneId)
    (screenChanged : Bool)
    (answers : InputFailure) : Option SessionActor :=
  if pane ∈ s.panes then
    (s.markScreenChange screenChanged).scheduleRender.reportInputFailure pane
      (some answers)
  else some s

def handleEvent (s : SessionActor) : ActorEvent → Option SessionActor
  | .client id message => s.handleClient id message
  | .disconnected id => s.disconnected id
  | .ptyOutput pane screenChanged answers =>
      s.ptyOutput pane screenChanged answers
  | .ptyExit pane => s.closePane pane

/-- The session before its first tab. -/
def unstarted (config : Config) : SessionActor where
  config
  panes := .empty
  tabs := []
  activeTab := 0
  attached := none
  lastDisplay := normalizedDisplay ⟨80, 24, 0, 0⟩ config.statusVisible
  nextPaneId := 1
  nextTabId := 1
  forceFull := true
  pendingRender := false
  layoutRevision := 0
  pointerDrag := none
  floatModal := none
  nextFloatMode := 0
  sessionSequence := 1
  sent := []
  environment := {}

/-- The run loop leaves once no tab is left and terminates every child. -/
def finishEvent (s : SessionActor) : SessionActor :=
  if s.tabs.isEmpty then { s with panes := .empty } else s

end SessionActor

/-- A running session handles one event with the answers that come with it. -/
def sessionStep
    (before : SessionActor)
    (event : Environment × ActorEvent)
    (after : SessionActor) : Prop :=
  before.tabs ≠ [] ∧
    ({ before with environment := event.1 }.handleEvent event.2).map
      SessionActor.finishEvent = some after

/-- Sessions from the state after the first tab on. -/
def sessionMachine : Machine SessionActor (Environment × ActorEvent) where
  initial s := ∃ config, (SessionActor.unstarted config).newTab = .ok s
  step := sessionStep

/-- A run over a list of events, when none of them aborts. -/
def runEvents
    (s : SessionActor) :
    List (Environment × ActorEvent) → Option SessionActor
  | [] => some s
  | event :: rest =>
      if s.tabs = [] then none
      else (({ s with environment := event.1 }.handleEvent event.2).map
        SessionActor.finishEvent).bind fun s => runEvents s rest

/-- A run over a list of events reaches its result. -/
theorem reachable_runEvents
    {s t : SessionActor}
    {events : List (Environment × ActorEvent)}
    (reachable : sessionMachine.Reachable (fun _ _ => True) s)
    (result : runEvents s events = some t) :
    sessionMachine.Reachable (fun _ _ => True) t := by
  induction events generalizing s with
  | nil =>
      simp only [runEvents, Option.some.injEq] at result
      exact result ▸ reachable
  | cons event rest ih =>
      unfold runEvents at result
      split_ifs at result with ended
      obtain ⟨after, stepped, result⟩ := Option.bind_eq_some_iff.mp result
      exact ih (.step reachable trivial ⟨ended, stepped⟩) result

end Session
end Vvmux
