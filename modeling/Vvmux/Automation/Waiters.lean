import Mathlib.Data.List.Infix
import Vvmux.Automation.Grid
import Vvmux.Terminal.Text

/-!
# Automation requests and waiters

What clients may ask of the session, the checks of a request before it is
looked at, and when a waiter has its answer.  What other parts of the session
say while an event is handled is part of the event: the layout, the media
bridge and its trace, the encoders of keys and pastes, the PTY queues and the
crate `regex`.
-/

namespace Vvmux

open Library

namespace Automation

open Layout (PaneId Axis)
open Session (AutomationError SplitReply)

/-! ## Requests -/

inductive MediaTraceCategory where
  | bridge
  | projection
  | playback
  | recovery
  | delivery
deriving DecidableEq

structure MediaTraceFilter where
  producerId : Option Nat
  sourceId : Option Nat
  category : Option MediaTraceCategory
  recoveryOnly : Bool
deriving DecidableEq

inductive AutomationMethod where
  | capabilities
  | listPanes
  | inspect
  | inspectMedia
  | traceMedia (afterSequence : Option Nat) (limit timeoutMs : Nat)
    (filter : MediaTraceFilter)
  | split (axis : Axis)
  | focus
  | closePane
  | typing (text : String)
  | key (key : String) (modifiers : List String) (repeats : Nat)
  | paste (text : String)
  | getText (rows : Option Nat)
  | getGrid (startLine : Option Int) (rowCount sinceScreen : Option Nat)
  | waitText (text : String) (regex : Bool) (afterScreen : Option Nat)
    (timeoutMs : Nat)
  | waitScreenChange (afterScreen : Option Nat) (timeoutMs : Nat)
  | waitScreenStable (quietMs : Nat) (afterScreen : Option Nat)
    (timeoutMs : Nat)
  | waitRendered (afterSession timeoutMs : Nat)
  | waitExit (timeoutMs : Nat)
  | waitMedia (afterVirtualRevision afterOuterRevision : Option Nat)
    (timeoutMs : Nat)

structure AutomationRequest where
  id : Nat
  paneId : Option PaneId
  allowFocused : Bool
  method : AutomationMethod

namespace AutomationMethod

/-- `method_needs_pane` -/
def needsPane :
    AutomationMethod → Bool
  | .capabilities => false
  | .listPanes => false
  | .waitRendered _ _ => false
  | _ => true

/-- The input whose length is limited. -/
def input? :
    AutomationMethod → Option String
  | .typing text => some text
  | .paste text => some text
  | _ => none

/-- The timeout that is checked; a trace that does not wait has none. -/
def timeout? :
    AutomationMethod → Option Nat
  | .waitText _ _ _ timeoutMs => some timeoutMs
  | .waitScreenChange _ timeoutMs => some timeoutMs
  | .waitScreenStable _ _ timeoutMs => some timeoutMs
  | .waitRendered _ timeoutMs => some timeoutMs
  | .waitExit timeoutMs => some timeoutMs
  | .waitMedia _ _ timeoutMs => some timeoutMs
  | .traceMedia _ _ timeoutMs _ => if timeoutMs ≠ 0 then some timeoutMs else none
  | _ => none

end AutomationMethod

/-- Twenty-four hours in milliseconds. -/
def maxTimeoutMs : Nat := 24 * 60 * 60 * 1000

/-- Whether a number is from one through a limit. -/
def fromOneThrough (limit number : Nat) : Bool :=
  decide (1 ≤ number ∧ number ≤ limit)

/-- The last arm of `validate_automation_method`. -/
def validateTimeout (method : AutomationMethod) : Except AutomationError Unit :=
  if method.timeout?.any fun timeout => !fromOneThrough maxTimeoutMs timeout then
    .error
      { code := "invalid_params"
        message := "timeout must be from 1ms through 24h" }
  else .ok ()

/-- The arm of `validate_automation_method` for `GetGrid`. -/
def validateGrid
    (startLine : Option Int)
    (rowCount sinceScreen : Option Nat) : Except AutomationError Unit :=
  if startLine.isSome != rowCount.isSome then
    .error
      { code := "invalid_params"
        message := "start_line and row_count must be supplied together" }
  else if sinceScreen.isSome && startLine.isSome then
    .error
      { code := "invalid_params"
        message := "since_screen conflicts with an explicit row range" }
  else if rowCount.any fun rows => !fromOneThrough 1000 rows then
    .error
      { code := "invalid_params"
        message := "row_count must be from 1 through 1000" }
  else .ok ()

/-- `validate_automation_method` -/
def validateAutomationMethod
    (method : AutomationMethod) : Except AutomationError Unit :=
  if method.input?.any fun text => 1024 * 1024 < text.utf8ByteSize then
    .error
      { code := "limit_exceeded"
        message := "input exceeds 1 MiB" }
  else
    match method with
    | .key _ _ repeats =>
        if !fromOneThrough 1000 repeats then
          .error
            { code := "invalid_params"
              message := "key repeat must be from 1 through 1000" }
        else validateTimeout method
    | .getText (some rows) =>
        if !fromOneThrough 1000 rows then
          .error
            { code := "invalid_params"
              message := "rows must be from 1 through 1000" }
        else validateTimeout method
    | .getGrid startLine rowCount sinceScreen =>
        validateGrid startLine rowCount sinceScreen
    | .waitText text regex _ _ =>
        if regex && decide (8 * 1024 < text.utf8ByteSize) then
          .error
            { code := "limit_exceeded"
              message := "regular expression exceeds 8 KiB" }
        else validateTimeout method
    | .traceMedia _ limit _ filter =>
        if !fromOneThrough 512 limit then
          .error
            { code := "invalid_params"
              message := "media trace limit must be from 1 through 512" }
        else if filter.sourceId.isSome && filter.producerId.isNone then
          .error
            { code := "invalid_params"
              message := "media trace source-id requires producer-id" }
        else validateTimeout method
    | .waitScreenStable quietMs _ _ =>
        if !fromOneThrough maxTimeoutMs quietMs then
          .error
            { code := "invalid_params"
              message := "quiet duration must be from 1ms through 24h" }
        else validateTimeout method
    | method => validateTimeout method

/-! ## Answers -/

structure PtyExitStatus where
  code : Option Int
  signal : Option Int
  success : Bool
deriving DecidableEq

/-- The parts of `PaneMediaStatus` that waiters compare. -/
structure MediaStatus where
  virtualProjectionRevision : Nat
  outerProjectionRevision : Nat
deriving DecidableEq

structure MediaTraceGap where
  requestedSequence : Nat
  oldestSequence : Nat
  currentSequence : Nat
deriving DecidableEq

/-- A batch of the media trace; an event is its sequence number. -/
structure MediaTraceBatch where
  oldestSequence : Nat
  currentSequence : Nat
  gap : Option MediaTraceGap
  events : List Nat
deriving DecidableEq

/-- The results of requests. -/
inductive AutomationValue where
  | null
  | capabilities
  | panes (sessionSequence renderedSessionSequence : Nat)
    (panes : List PaneId)
  | inspect (sessionSequence renderedSessionSequence : Nat) (pane : PaneId)
  | mediaStatus (status : MediaStatus)
  | mediaTrace (batch : MediaTraceBatch)
  | split (reply : SplitReply)
  | text (text : List Char)
  | grid (taken : GridSnapshot)
  | screen (paneId : PaneId) (screenSequence : Nat) (quietMs : Option Nat)
  | rendered (sessionSequence renderedSessionSequence : Nat)
  | exit (paneId : PaneId) (status : Option PtyExitStatus)
deriving DecidableEq

abbrev AutomationResult := Except AutomationError AutomationValue

structure AutomationResponse where
  id : Nat
  result : AutomationResult

/-- What other parts of the session answer while an event is handled. -/
structure Outside where
  /-- The pane that has the focus in the active tab. -/
  focused : Option PaneId
  /-- `rendered_session_sequence` of the attached client, if there is one. -/
  attached : Option Nat
  sessionSequence : Nat
  /-- What relaying out makes of the panes: it resizes them, and closes those
  whose PTY refuses. -/
  relayout : OrderedMap PaneId Pane → OrderedMap PaneId Pane
  /-- The reply of `automation_split`, and the history limit of the new
  pane. -/
  split : Except AutomationError (SplitReply × Nat)
  /-- What `automation_focus` says. -/
  focus : Except AutomationError Unit
  /-- Whether `pane_description` finds the pane in a tab. -/
  describes : PaneId → Bool
  mediaStatus : PaneId → MediaStatus
  /-- `MediaTraceJournal::query` -/
  mediaTrace : Option Nat → Nat → Option PaneId → MediaTraceFilter →
    MediaTraceBatch
  /-- `encode_automation_key` -/
  encodeKey : String → List String → Terminal.TerminalModes →
    Except AutomationError (List UInt8)
  /-- `sanitize_bracketed_paste` -/
  sanitizePaste : String → List UInt8
  /-- `Regex::new`, and whether the expression matches a text. -/
  compile : String → Except String (List Char → Bool)
  /-- `PtyInput::send_with_completion` -/
  queueInput : Except String Unit
  /-- Whether the thread that waits for the completion starts. -/
  spawnWorker : Except String Unit

/-! ## Waiters -/

/-- Who asked.  The writer and the canceller of a connection are known by its
client. -/
structure ReplyTarget where
  clientId : Nat
  requestId : Nat
  /-- History: how many requests arrived before this one. -/
  request : Nat
deriving DecidableEq

inductive TextPattern where
  | literal (text : String)
  | regex (expression : String)
deriving DecidableEq

inductive WaitKind where
  | text (pattern : TextPattern) (afterScreen : Option Nat)
  | screenChange (afterScreen : Nat)
  | screenStable (quiet : Nat) (afterScreen : Option Nat)
  | rendered (afterSession : Nat)
  | exit
  | media (afterVirtualRevision afterOuterRevision : Option Nat)
  | mediaTrace (afterSequence : Option Nat) (limit : Nat)
    (filter : MediaTraceFilter)
deriving DecidableEq

/-- `AutomationWaiter`; times are in milliseconds. -/
structure Waiter where
  reply : ReplyTarget
  paneId : Option PaneId
  deadline : Nat
  kind : WaitKind
deriving DecidableEq

/-- `Terminal::visible_text` -/
def Pane.visibleText (pane : Pane) : List Char :=
  pane.terminal.extractRows
    (-(min pane.displayOffset pane.terminal.history.length : Nat))
    pane.terminal.rows

/-- `str::contains` or `Regex::is_match`. -/
def TextPattern.matches
    (outside : Outside)
    (pattern : TextPattern)
    (text : List Char) : Bool :=
  match pattern with
  | .literal sought => decide (sought.toList <:+: text)
  | .regex expression =>
      match outside.compile expression with
      | .ok isMatch => isMatch text
      | .error _ => false

/-- The answer of a waiter that looks at the screen of its pane. -/
def screenResult
    (outside : Outside)
    (now : Nat)
    (paneId : PaneId)
    (pane : Pane) :
    WaitKind → Option AutomationResult
  | .text pattern afterScreen =>
      if afterScreen.any fun sequence => pane.screenSequence ≤ sequence then none
      else if pattern.matches outside pane.visibleText then
        some (.ok (.screen paneId pane.screenSequence none))
      else none
  | .screenChange afterScreen =>
      if afterScreen < pane.screenSequence then
        some (.ok (.screen paneId pane.screenSequence none))
      else none
  | .screenStable quiet afterScreen =>
      if (afterScreen.all fun sequence => sequence < pane.screenSequence) &&
          decide (quiet ≤ now - pane.lastScreenChange) then
        some (.ok (.screen paneId pane.screenSequence (some quiet)))
      else none
  | _ => none

/-- `automation_waiter_result` -/
def waiterResult
    (outside : Outside)
    (now : Nat)
    (panes : OrderedMap PaneId Pane)
    (exitTombstones : List (PaneId × Option PtyExitStatus))
    (waiter : Waiter) : Option AutomationResult :=
  match waiter.kind with
  | .media afterVirtualRevision afterOuterRevision =>
      waiter.paneId.bind fun paneId =>
        let status := outside.mediaStatus paneId
        if (afterVirtualRevision.all fun revision =>
              revision < status.virtualProjectionRevision) &&
            (afterOuterRevision.all fun revision =>
              revision < status.outerProjectionRevision) then
          some (.ok (.mediaStatus status))
        else none
  | .mediaTrace afterSequence limit filter =>
      let batch := outside.mediaTrace afterSequence limit waiter.paneId filter
      if batch.gap.isSome || !batch.events.isEmpty then
        some (.ok (.mediaTrace batch))
      else none
  | .rendered afterSession =>
      match outside.attached with
      | none =>
          some (.error
            { code := "unsupported"
              message := "attached client disconnected while waiting for render" })
      | some rendered =>
          if afterSession ≤ rendered then
            some (.ok (.rendered outside.sessionSequence rendered))
          else none
  | .exit =>
      waiter.paneId.bind fun paneId =>
        match exitTombstones.reverse.find? fun exit => exit.1 = paneId with
        | some exit => some (.ok (.exit paneId exit.2))
        | none =>
            if paneId ∈ panes then none
            else
              some (.error
                { code := "pane_not_found"
                  message :=
                    "pane does not exist and has no retained exit status" })
  | kind =>
      waiter.paneId.bind fun paneId =>
        match panes.find? paneId with
        | none =>
            some (.error
              { code := "pane_not_found"
                message := "pane closed while waiting" })
        | some pane => screenResult outside now paneId pane kind

end Automation
end Vvmux
