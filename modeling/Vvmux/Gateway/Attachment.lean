import Vvmux.Gateway.Connection

/-!
# The order of an attachment

Every request has its reply, the frames of an attachment stand between the
enter and the leave sequence and are the bytes of the session, and the session
ends the connection by nothing it says.  This holds in the runs in which the
gateway can encode what the session says, the session says only what it may
say to an attached client, and neither side is given up for being slow.
-/

namespace Vvmux

open Library

namespace Gateway

variable {Input Scanner : Type}

/-! ## The order of frames -/

namespace ServerControl

/-- The message ends an attachment. -/
def ends : ServerControl → Bool
  | .detached _ => true
  | .error none "session_error" _ => true
  | _ => false

def attaches : ServerControl → Bool
  | .attached _ _ _ => true
  | _ => false

/-- The message belongs to no attachment's start or end. -/
def plain (message : ServerControl) : Bool :=
  !message.ends && !message.attaches

end ServerControl

/-- Where a client is that reads the frames in order. -/
inductive Watch
  | idle
  /-- Told that it is attached. -/
  | greeted
  | attached
  /-- Its terminal is restored. -/
  | leaving
  deriving DecidableEq, Repr

/-- The next frame, if it may come there. -/
def Watch.advance : Watch → Outgoing → Option Watch
  | .idle, .control message =>
      if message.attaches then some .greeted
      else if message.ends then none
      else some .idle
  | .idle, .binary _ => none
  | .idle, _ => some .idle
  | .greeted, .binary .enter => some .attached
  | .greeted, _ => none
  | .attached, .control message =>
      if message.plain then some .attached else none
  | .attached, .binary (.render _) => some .attached
  | .attached, .binary .leave => some .leaving
  | .attached, .binary .enter => none
  | .attached, .close _ _ => none
  | .attached, _ => some .attached
  | .leaving, .control message => if message.ends then some .idle else none
  | .leaving, .close _ _ => some .idle
  | .leaving, _ => none

/-- Where the frames lead a client, if each may come where it does. -/
def watch (sent : List Outgoing) : Option Watch :=
  sent.foldlM Watch.advance .idle

variable (sent more : List Outgoing)

theorem watch_append :
    watch (sent ++ more) =
      (watch sent).bind fun place => more.foldlM Watch.advance place := by
  unfold watch
  rw [List.foldlM_append]
  rfl

/-- What one frame adds to the bytes that each attachment showed. -/
def showFrame
    (shown : List (List UInt8)) :
    Outgoing → List (List UInt8)
  | .binary .enter => [] :: shown
  | .binary (.render bytes) =>
      match shown with
      | [] => []
      | latest :: earlier => (latest ++ bytes) :: earlier
  | _ => shown

/-- The bytes between the sequences of each attachment, the latest first. -/
def shown (sent : List Outgoing) : List (List UInt8) :=
  sent.foldl showFrame []

theorem shown_append :
    shown (sent ++ more) = more.foldl showFrame (shown sent) := by
  unfold shown
  rw [List.foldl_append]

def Outgoing.replyId : Outgoing → Option Nat
  | .control message => message.replyId
  | _ => none

/-- The IDs of the replies, in order. -/
def replies (sent : List Outgoing) : List Nat :=
  sent.filterMap Outgoing.replyId

theorem replies_append :
    replies (sent ++ more) = replies sent ++ replies more :=
  List.filterMap_append

theorem replies_singleton
    (message : Outgoing) : replies [message] = message.replyId.toList := by
  unfold replies
  cases same : message.replyId with
  | none => simp [same]
  | some requestId => simp [same]

/-! ## The pieces of a render -/

theorem flatten_chunks
    (size : Nat)
    (bytes : List UInt8) : (Connection.chunks size bytes).flatten = bytes := by
  fun_induction Connection.chunks size bytes with
  | case1 bytes small => simp
  | case2 bytes large ih =>
      rw [List.flatten_cons, ih, List.take_append_drop]

variable (pieces : List (List UInt8))

theorem watch_frames :
    (pieces.map fun piece => Outgoing.binary (.render piece)).foldlM
      Watch.advance .attached = some .attached := by
  induction pieces with
  | nil => rfl
  | cons piece rest ih =>
      rw [List.map_cons, List.foldlM_cons]
      exact ih

theorem shown_frames
    (latest : List UInt8)
    (earlier : List (List UInt8)) :
    (pieces.map fun piece => Outgoing.binary (.render piece)).foldl showFrame
      (latest :: earlier) = (latest ++ pieces.flatten) :: earlier := by
  induction pieces generalizing latest with
  | nil => simp
  | cons piece rest ih =>
      rw [List.map_cons, List.foldl_cons, List.flatten_cons,
        ← List.append_assoc]
      exact ih (latest ++ piece)

theorem replies_frames :
    replies (pieces.map fun piece => Outgoing.binary (.render piece)) = [] := by
  induction pieces with
  | nil => rfl
  | cons piece rest ih => exact ih

/-! ## Quiet handlers -/

namespace Connection

/-- Nothing that the client or the attachment sees changes. -/
structure Quiet (before after : Connection Input Scanner) : Prop where
  sent : after.sent = before.sent
  requests : after.requests = before.requests
  received : after.received = before.received
  ended : after.ended = before.ended
  bridge : after.bridge = before.bridge
  session : after.session.map SessionAdapter.vivid =
    before.session.map SessionAdapter.vivid

theorem Quiet.refl
    (connection : Connection Input Scanner) : Quiet connection connection :=
  ⟨rfl, rfl, rfl, rfl, rfl, rfl⟩

theorem Quiet.trans
    {before middle after : Connection Input Scanner}
    (first : Quiet before middle)
    (second : Quiet middle after) : Quiet before after where
  sent := second.sent.trans first.sent
  requests := second.requests.trans first.requests
  received := second.received.trans first.received
  ended := second.ended.trans first.ended
  bridge := second.bridge.trans first.bridge
  session := second.session.trans first.session

/-- A quiet handler, which fails only where the queue to the session does. -/
def Quietly
    (before : Connection Input Scanner)
    (handled : Handled Input Scanner) : Prop :=
  Quiet before handled.1 ∧
    (handled.2 = none ∨ handled.2 = some .sessionQueue)

variable {before connection after : Connection Input Scanner}
  (parsing : Parsing Input Scanner)

theorem Quietly.andThen
    {handled : Handled Input Scanner}
    {next : Connection Input Scanner → Handled Input Scanner}
    (first : Quietly before handled)
    (second : ∀ middle, Quiet before middle → Quietly before (next middle)) :
    Quietly before (handled.andThen next) := by
  unfold Handled.andThen
  split
  · exact first
  · exact second handled.1 first.1

section

variable (quiet : Quiet before connection)
include quiet

theorem quietly_sendSession
    (message : ClientMessage) :
    Quietly before (connection.sendSession message) := by
  unfold sendSession
  split
  · exact ⟨quiet, Or.inl rfl⟩
  · rename_i adapter attached
    have same : (adapter.send message).1.vivid = adapter.vivid := by
      unfold SessionAdapter.send
      split <;> rfl
    refine ⟨quiet.trans ⟨rfl, rfl, rfl, rfl, rfl, ?_⟩, ?_⟩
    · rw [attached]
      simp only [Option.map_some, same]
    · show (adapter.send message).2 = none ∨ _
      unfold SessionAdapter.send
      split
      · exact Or.inr rfl
      · exact Or.inl rfl

theorem quietly_dispatchParsed
    (commands : List ParsedInput) :
    Quietly before (connection.dispatchParsed commands) := by
  induction commands generalizing connection with
  | nil => exact ⟨quiet, Or.inl rfl⟩
  | cons command rest ih =>
      exact (quietly_sendSession quiet command.message).andThen
        fun middle kept => ih kept

theorem quietly_dispatchCommands
    (modeId : Nat)
    (commands : List Session.FloatingEditCommand) :
    Quietly before (connection.dispatchCommands modeId commands) := by
  induction commands generalizing connection with
  | nil => exact ⟨quiet, Or.inl rfl⟩
  | cons command rest ih =>
      refine (quietly_sendSession quiet (.floatingEdit modeId command)).andThen
        fun middle kept => ?_
      have left : Quiet before { middle with floatMode := none } :=
        kept.trans ⟨rfl, rfl, rfl, rfl, rfl, rfl⟩
      cases command with
      | step direction cells => exact ih kept
      | commit => exact ih left
      | cancel => exact ih left

theorem quietly_feedInput
    (bytes : List UInt8) :
    Quietly before (connection.feedInput parsing bytes) := by
  unfold feedInput
  apply quietly_dispatchParsed
  exact quiet.trans ⟨rfl, rfl, rfl, rfl, rfl, rfl⟩

end

theorem quietly_dispatchInput
    (now : Nat)
    (connection : Connection Input Scanner)
    (bytes : List UInt8) :
    Quietly connection (connection.dispatchInput parsing now bytes) := by
  unfold dispatchInput
  split
  · exact quietly_feedInput parsing (Quiet.refl connection) bytes
  · dsimp only
    refine (quietly_dispatchCommands ?_ _ _).andThen
      fun middle kept => quietly_feedInput parsing kept _
    exact ⟨rfl, rfl, rfl, rfl, rfl, rfl⟩

theorem quietly_expireFloatMode
    (now : Nat)
    (connection : Connection Input Scanner) :
    Quietly connection (connection.expireFloatMode parsing now) := by
  unfold expireFloatMode
  dsimp only
  split
  · refine (quietly_sendSession ?_ _).andThen fun middle kept =>
      ⟨kept.trans ⟨rfl, rfl, rfl, rfl, rfl, rfl⟩, Or.inl rfl⟩
    exact ⟨rfl, rfl, rfl, rfl, rfl, rfl⟩
  · exact ⟨⟨rfl, rfl, rfl, rfl, rfl, rfl⟩, Or.inl rfl⟩

theorem quiet_withRoom
    (connection : Connection Input Scanner)
    (room : Nat) : Quiet connection (connection.withRoom room) := by
  refine ⟨rfl, rfl, rfl, rfl, rfl, ?_⟩
  unfold withRoom
  cases connection.session <;> rfl

theorem Quiet.isSome
    (quiet : Quiet before after) :
    after.session.isSome = before.session.isSome := by
  have same := congrArg Option.isSome quiet.session
  rwa [Option.isSome_map, Option.isSome_map] at same

/-! ## A running connection -/

/-- Where the client is while the loop runs. -/
def place (connection : Connection Input Scanner) : Watch :=
  if connection.session.isSome then .attached else .idle

/-- The state of a running connection agrees with what was sent. -/
structure Sound (connection : Connection Input Scanner) : Prop where
  running : connection.ended = none
  watched : watch connection.sent = some connection.place
  shows : shown connection.sent = connection.received
  started : connection.session.isSome = true → connection.received ≠ []
  bridged : ∀ adapter, connection.session = some adapter →
    adapter.vivid = true → connection.bridge.isSome = true

theorem Sound.quiet
    (sound : before.Sound)
    (quiet : Quiet before after) : after.Sound where
  running := quiet.ended.trans sound.running
  watched := by
    rw [quiet.sent, sound.watched]
    unfold place
    rw [quiet.isSome]
  shows := by
    rw [quiet.sent, sound.shows, quiet.received]
  started attached := by
    rw [quiet.received]
    exact sound.started (quiet.isSome ▸ attached)
  bridged adapter attached takes := by
    have same := quiet.session
    rw [attached, Option.map_some] at same
    obtain ⟨former, there, vivid⟩ := Option.map_eq_some_iff.mp same.symm
    rw [quiet.bridge]
    exact sound.bridged former there (vivid.trans takes)

/-- A frame that may come at any time and shows nothing. -/
structure Passive (message : Outgoing) : Prop where
  idle : Watch.advance .idle message = some .idle
  attached : Watch.advance .attached message = some .attached
  shows : ∀ before, showFrame before message = before

variable {message : ServerControl}

theorem passive_control
    (plain : message.plain = true) : Passive (.control message) := by
  have apart : message.ends = false ∧ message.attaches = false := by
    simpa [ServerControl.plain] using plain
  refine ⟨?_, ?_, fun _ => rfl⟩
  · simp [Watch.advance, apart.1, apart.2]
  · simp [Watch.advance, plain]

theorem Sound.send
    (sound : connection.Sound)
    {message : Outgoing}
    (passive : Passive message) : (connection.send message).Sound where
  running := sound.running
  watched := by
    show watch (connection.sent ++ [message]) = some connection.place
    rw [watch_append, sound.watched]
    show (Watch.advance connection.place message).bind _ = _
    unfold place
    split
    · rw [passive.attached]
      rfl
    · rw [passive.idle]
      rfl
  shows := by
    show shown (connection.sent ++ [message]) = connection.received
    rw [shown_append, sound.shows]
    exact passive.shows connection.received
  started := sound.started
  bridged := sound.bridged

/-! ## Answers -/

/-- A handler leaves a sound state, and it either fails or gives the reply that
was asked for. -/
structure Answers
    (before : Connection Input Scanner)
    (asked : Option Nat)
    (handled : Handled Input Scanner) : Prop where
  sound : handled.1.Sound
  requests : handled.1.requests = before.requests
  replied : handled.2 = none →
    replies handled.1.sent = replies before.sent ++ asked.toList
  failed : handled.2 ≠ none → replies handled.1.sent = replies before.sent
  unstalled : handled.2 ≠ some .stalled

theorem Sound.answers_failure
    (sound : connection.Sound)
    (asked : Option Nat)
    {failure : Failure}
    (other : failure ≠ .stalled) :
    Answers connection asked (connection, some failure) where
  sound := sound
  requests := rfl
  replied none := nomatch none
  failed _ := rfl
  unstalled same := other (Option.some.inj same)

theorem Sound.answers_quietly
    (sound : before.Sound)
    {handled : Handled Input Scanner}
    (quietly : Quietly before handled) : Answers before none handled where
  sound := sound.quiet quietly.1
  requests := quietly.1.requests
  replied _ := by
    rw [quietly.1.sent]
    exact (List.append_nil _).symm
  failed _ := by rw [quietly.1.sent]
  unstalled same := by
    rcases quietly.2 with fine | queue
    · rw [fine] at same
      cases same
    · rw [queue] at same
      cases same

theorem Sound.answers_send
    (sound : connection.Sound)
    {message : Outgoing}
    (passive : Passive message) :
    Answers connection message.replyId (connection.send message, none) where
  sound := sound.send passive
  requests := rfl
  replied _ := by
    show replies (connection.sent ++ [message]) = _
    rw [replies_append, replies_singleton]
  failed fails := absurd rfl fails
  unstalled same := nomatch same

theorem Sound.answers_sendControl
    (sound : connection.Sound)
    {asked : Option Nat}
    (plain : message.plain = true)
    (same : message.replyId = asked) :
    Answers connection asked (connection.sendControl message) := by
  subst same
  unfold sendControl
  split
  · exact sound.answers_failure _ (fun same => nomatch same)
  · exact sound.answers_send (passive_control plain)

theorem plain_error
    (requestId : Option Nat)
    {code : String}
    (other : code ≠ "session_error")
    (message : Text) :
    (ServerControl.error requestId code message).plain = true := by
  cases requestId with
  | none => simp [ServerControl.plain, ServerControl.ends,
      ServerControl.attaches, other]
  | some requestId => rfl

theorem Sound.answers_sendError
    (sound : connection.Sound)
    (requestId : Option Nat)
    {code : String}
    (other : code ≠ "session_error")
    (message : Text) :
    Answers connection requestId
      (connection.sendError requestId code message) :=
  sound.answers_sendControl (plain_error requestId other message) rfl

/-! ## Requests -/

/-- The reply, the enter sequence and the attached session. -/
theorem Sound.answers_enterSession
    (sound : connection.Sound)
    (detached : connection.session.isSome = false)
    (requestId : Nat)
    (adapter : SessionAdapter)
    (textOnly : Bool)
    (bridged : adapter.vivid = true → connection.bridge.isSome = true) :
    Answers connection (some requestId)
      (connection.enterSession parsing requestId adapter textOnly) := by
  unfold enterSession sendControl
  split
  · exact sound.answers_failure _ (fun same => nomatch same)
  · have watched := sound.watched
    unfold place at watched
    rw [detached] at watched
    refine ⟨⟨sound.running, ?_, ?_, ?_, ?_⟩, rfl, ?_, ?_, ?_⟩
    · show watch ((connection.sent ++ [_]) ++ [_]) = some .attached
      rw [watch_append, watch_append, watched]
      rfl
    · show shown ((connection.sent ++ [_]) ++ [_]) =
        [] :: connection.received
      rw [shown_append, shown_append, sound.shows]
      rfl
    · intro _ empty
      cases empty
    · intro other same takes
      cases same
      exact bridged takes
    · intro _
      show replies ((connection.sent ++ [_]) ++ [_]) = _
      rw [replies_append, replies_append, replies_singleton,
        replies_singleton]
      exact List.append_nil _
    · exact fun fails => absurd rfl fails
    · exact fun same => nomatch same

section

variable (outside : Outside) (sound : connection.Sound)
include sound

theorem Sound.answers_startBridge
    (detached : connection.session.isSome = false)
    (requestId : Nat)
    (adapter : SessionAdapter)
    (textOnly : Bool) :
    Answers connection (some requestId)
      (connection.startBridge parsing outside requestId adapter textOnly) := by
  unfold startBridge
  split
  · split
    · exact sound.answers_failure _ (fun same => nomatch same)
    · exact sound.answers_sendError (some requestId) (by decide) _
    · split
      · exact sound.answers_sendError (some requestId) (by decide) _
      · have started : Sound { connection with bridge := some ⟨[]⟩ } := by
          refine ⟨sound.running, sound.watched, sound.shows, sound.started, ?_⟩
          intro other attached _
          rfl
        have entered := started.answers_enterSession parsing detached requestId
          adapter textOnly (fun _ => rfl)
        exact { entered with }
  · rename_i texts
    exact sound.answers_enterSession parsing detached requestId adapter
      textOnly (fun takes => absurd takes texts)

theorem Sound.answers_listSessions
    (requestId : Nat) :
    Answers connection (some requestId)
      (connection.listSessions outside requestId) := by
  unfold listSessions
  split
  · exact sound.answers_sendError (some requestId) (by decide) _
  · split
    · exact sound.answers_sendControl rfl rfl
    · exact sound.answers_sendError (some requestId) (by decide) _
    · exact sound.answers_failure _ (fun same => nomatch same)

theorem Sound.answers_createSession
    (requestId : Nat)
    (name : Text) :
    Answers connection (some requestId)
      (connection.createSession outside requestId name) := by
  unfold createSession
  split
  · exact sound.answers_sendError (some requestId) (by decide) _
  split
  · exact sound.answers_sendError (some requestId) (by decide) _
  split
  · exact sound.answers_sendControl rfl rfl
  · refine sound.answers_sendError (some requestId) ?_ _
    split <;> decide
  · exact sound.answers_failure _ (fun same => nomatch same)

end

theorem refusalCode_ne
    (error : IoError) : refusalCode error ≠ "session_error" := by
  unfold refusalCode
  split
  · decide
  · split <;> decide

theorem Sound.answers_attach
    (outside : Outside)
    (sound : connection.Sound)
    (requestId : Nat)
    (name : Text)
    (display : WireDisplay)
    (vivid : Bool) :
    Answers connection (some requestId)
      (connection.attach parsing outside requestId name display vivid) := by
  unfold attach
  split
  · exact sound.answers_sendError (some requestId) (by decide) _
  rename_i detached
  split
  · exact sound.answers_sendError (some requestId) (by decide) _
  split
  · exact sound.answers_sendError (some requestId) (by decide) _
  split
  · exact sound.answers_sendError (some requestId) (refusalCode_ne _) _
  · exact sound.answers_startBridge parsing outside
      (Bool.eq_false_iff.mpr detached) requestId _ _

theorem Sound.answers_notAttached
    (sound : connection.Sound) :
    Answers connection none connection.notAttached :=
  sound.answers_sendError none (by decide) _

theorem Sound.answers_handleControl
    (outside : Outside)
    (sound : connection.Sound)
    (control : ClientControl) :
    Answers connection control.requestId
      (connection.handleControl parsing outside control) := by
  have forwarded : ∀ message : ClientMessage,
      Answers connection none (connection.sendSession message) := fun message =>
    sound.answers_quietly (quietly_sendSession (Quiet.refl _) message)
  cases control with
  | hello version token => exact sound.answers_sendError none (by decide) _
  | listSessions requestId => exact sound.answers_listSessions outside _
  | createSession requestId name =>
      exact sound.answers_createSession outside _ _
  | attach requestId name display takeover vivid =>
      exact sound.answers_attach parsing outside _ _ _ _
  | resize display | action action =>
      simp only [handleControl]
      split
      · split
        · exact forwarded _
        · exact sound.answers_sendError none (by decide) _
      · exact sound.answers_notAttached
  | detach =>
      simp only [handleControl]
      split
      · exact forwarded _
      · exact sound.answers_notAttached

theorem Sound.answers_handleSocketMessage
    (outside : Outside)
    (sound : connection.Sound)
    (asks : connection.requests = replies connection.sent)
    (message : Message) :
    ∃ owed : List Nat, owed.length ≤ 1 ∧
      (connection.handleSocketMessage parsing outside message).1.Sound ∧
      (connection.handleSocketMessage parsing outside message).1.requests =
        replies (connection.handleSocketMessage parsing outside
          message).1.sent ++ owed ∧
      ((connection.handleSocketMessage parsing outside message).2 = none →
        owed = []) ∧
      (connection.handleSocketMessage parsing outside message).2 ≠
        some .stalled := by
  -- a request that is answered at once leaves nothing owed
  have settle : ∀ (before : Connection Input Scanner) (asked : Option Nat)
      (handled : Handled Input Scanner),
      before.requests = replies before.sent ++ asked.toList →
      Answers before asked handled →
      ∃ owed : List Nat, owed.length ≤ 1 ∧ handled.1.Sound ∧
        handled.1.requests = replies handled.1.sent ++ owed ∧
        (handled.2 = none → owed = []) ∧ handled.2 ≠ some .stalled := by
    intro before asked handled noted answers
    by_cases fine : handled.2 = none
    · refine ⟨[], Nat.zero_le 1, answers.sound, ?_, fun _ => rfl,
        answers.unstalled⟩
      rw [answers.requests, noted, answers.replied fine, List.append_nil]
    · refine ⟨asked.toList, ?_, answers.sound, ?_,
        fun none => absurd none fine, answers.unstalled⟩
      · cases asked <;> simp
      · rw [answers.requests, noted, answers.failed fine]
  have plainly : ∀ handled : Handled Input Scanner,
      Answers connection none handled →
      ∃ owed : List Nat, owed.length ≤ 1 ∧ handled.1.Sound ∧
        handled.1.requests = replies handled.1.sent ++ owed ∧
        (handled.2 = none → owed = []) ∧ handled.2 ≠ some .stalled := by
    intro handled answers
    refine settle connection none handled ?_ answers
    rw [asks]
    exact (List.append_nil _).symm
  unfold handleSocketMessage
  split
  · split
    · exact plainly _ (sound.answers_sendError none (by decide) _)
    · rename_i control decoded
      have noted : Sound (connection.noteRequest control) :=
        { sound with }
      refine settle (connection.noteRequest control) control.requestId _ ?_
        (noted.answers_handleControl parsing outside control)
      show connection.requests ++ _ = replies connection.sent ++ _
      rw [asks]
  · split
    · exact plainly _ (sound.answers_sendError none (by decide) _)
    · split
      · exact plainly _
          (sound.answers_quietly (quietly_dispatchInput parsing _ _ _))
      · exact plainly _ sound.answers_notAttached
  · rename_i bytes
    have passive : Passive (.pong bytes) := ⟨rfl, rfl, fun _ => rfl⟩
    exact plainly _ (sound.answers_send passive)
  · exact plainly _
      (sound.answers_quietly ⟨Quiet.refl connection, Or.inl rfl⟩)
  · exact plainly _ (sound.answers_failure none (fun same => nomatch same))

end Connection

/-! ## What the session says -/

/-- The control message that a message of the session is sent on as. -/
def ServerMessage.control : ServerMessage → Option ServerControl
  | .title text => some (.title text)
  | .bell => some .bell
  | .clipboard text => some (.clipboard text)
  | .status message => some (.status message)
  | .floatingEditMode modeId pane kind =>
      some (.floatingEditState modeId pane.isSome pane
        (Connection.kindName kind))
  | .detached reason => some (.detached reason)
  | .error message => some (.error none "session_error" message)
  | _ => none

/-- A session says this to an attached client. -/
def ServerMessage.attachment : ServerMessage → Bool
  | .attached | .automation | .automationChunk => false
  | _ => true

namespace Connection

/-- A message of the session that asks for no reply and does no harm. -/
structure Heard
    (before : Connection Input Scanner)
    (handled : Handled Input Scanner) : Prop where
  answers : Answers before none handled
  unharmed : handled.2 = none ∨ handled.2 = some .sessionQueue

variable {before connection : Connection Input Scanner}
  {handled : Handled Input Scanner} (parsing : Parsing Input Scanner)

theorem Sound.heard_quietly
    (sound : before.Sound)
    (quietly : Quietly before handled) : Heard before handled :=
  ⟨sound.answers_quietly quietly, quietly.2⟩

theorem sendControl_of_fits
    (connection : Connection Input Scanner)
    {message : ServerControl}
    (fits : message.Fits) :
    connection.sendControl message =
      (connection.send (.control message), none) := by
  unfold sendControl
  rw [if_neg (Nat.not_lt.mpr fits)]

theorem Sound.heard_sendControl
    (sound : connection.Sound)
    {message : ServerControl}
    (plain : message.plain = true)
    (asks : message.replyId = none)
    (fits : message.Fits) :
    Heard connection (connection.sendControl message) := by
  refine ⟨sound.answers_sendControl plain asks, Or.inl ?_⟩
  rw [sendControl_of_fits connection fits]

/-- A quiet handler and then another one. -/
theorem Sound.heard_andThen
    (sound : before.Sound)
    (quietly : Quietly before handled)
    {next : Connection Input Scanner → Handled Input Scanner}
    (further : ∀ middle : Connection Input Scanner, middle.Sound →
      Heard middle (next middle)) :
    Heard before (handled.andThen next) := by
  unfold Handled.andThen
  split
  · exact sound.heard_quietly quietly
  · obtain ⟨answers, unharmed⟩ := further _ (sound.quiet quietly.1)
    refine ⟨⟨answers.sound, ?_, ?_, ?_, answers.unstalled⟩, unharmed⟩
    · exact answers.requests.trans quietly.1.requests
    · exact fun fine => (answers.replied fine).trans
        (by rw [quietly.1.sent])
    · exact fun fails => (answers.failed fails).trans
        (by rw [quietly.1.sent])

section

variable (sound : connection.Sound)
include sound

/-- The leave sequence, the message that ends the attachment, and what clears
the attachment away. -/
theorem Sound.heard_leave
    (attached : connection.session.isSome = true)
    (message : ServerControl)
    (ends : message.ends = true)
    (asks : message.replyId = none)
    (fits : message.Fits)
    (clear : Connection Input Scanner → Connection Input Scanner)
    (sent : ∀ before, (clear before).sent = before.sent)
    (requests : ∀ before, (clear before).requests = before.requests)
    (received : ∀ before, (clear before).received = before.received)
    (ended : ∀ before, (clear before).ended = before.ended)
    (left : ∀ before, (clear before).session = none) :
    Heard connection
      (((connection.send (.binary .leave)).sendControl message).andThen
        fun connection => (clear connection, none)) := by
  have watched := sound.watched
  unfold place at watched
  rw [attached] at watched
  rw [sendControl_of_fits _ fits]
  unfold Handled.andThen
  dsimp only
  refine ⟨⟨⟨?_, ?_, ?_, ?_, ?_⟩, requests _, ?_, ?_, ?_⟩, Or.inl rfl⟩
  · exact (ended _).trans sound.running
  · unfold place
    rw [left, sent]
    show watch ((connection.sent ++ [_]) ++ [_]) = _
    rw [watch_append, watch_append, watched]
    simp [Watch.advance, ends]
  · rw [sent, received]
    show shown ((connection.sent ++ [_]) ++ [_]) = connection.received
    rw [shown_append, shown_append, sound.shows]
    rfl
  · intro remains
    rw [left] at remains
    cases remains
  · intro adapter remains
    rw [left] at remains
    cases remains
  · intro _
    rw [sent]
    show replies ((connection.sent ++ [_]) ++ [_]) = _
    rw [replies_append, replies_append, replies_singleton,
      replies_singleton]
    show replies connection.sent ++ [] ++ message.replyId.toList = _
    rw [asks, List.append_nil]
  · exact fun fails => absurd rfl fails
  · exact fun same => nomatch same

/-- The pieces of a render are the render. -/
theorem Sound.sendRender
    (attached : connection.session.isSome = true)
    (bytes : List UInt8) :
    (connection.sendRender bytes).Sound ∧
      replies (connection.sendRender bytes).sent =
        replies connection.sent := by
  have watched := sound.watched
  unfold place at watched
  rw [attached] at watched
  obtain ⟨latest, earlier, received⟩ :=
    List.exists_cons_of_ne_nil (sound.started attached)
  refine ⟨⟨sound.running, ?_, ?_, ?_, sound.bridged⟩, ?_⟩
  · show watch (connection.sent ++ _) = some (connection.place)
    unfold place
    rw [attached, watch_append, watched]
    exact watch_frames _
  · unfold Connection.sendRender
    dsimp only
    rw [shown_append, sound.shows, received, shown_frames, flatten_chunks]
  · intro _
    unfold Connection.sendRender
    dsimp only
    rw [received]
    exact List.cons_ne_nil _ _
  · show replies (connection.sent ++ _) = _
    rw [replies_append, replies_frames, List.append_nil]

theorem Sound.heard_render
    (attached : connection.session.isSome = true)
    (frameId : Nat)
    (last : Bool)
    (bytes : List UInt8)
    (parsing : Parsing Input Scanner) :
    Heard connection (connection.handleSessionMessage parsing
      (.render frameId last bytes)) := by
  obtain ⟨shows, same⟩ := sound.sendRender attached bytes
  have acknowledged : Heard (connection.sendRender bytes)
      (connection.handleSessionMessage parsing
        (.render frameId last bytes)) := by
    simp only [handleSessionMessage]
    split
    · exact shows.heard_quietly
        (quietly_sendSession (Quiet.refl _) (.renderAck frameId))
    · exact shows.heard_quietly ⟨Quiet.refl _, Or.inl rfl⟩
  obtain ⟨answers, unharmed⟩ := acknowledged
  refine ⟨⟨answers.sound, answers.requests, ?_, ?_, answers.unstalled⟩,
    unharmed⟩
  · exact fun fine => (answers.replied fine).trans (by rw [same])
  · exact fun fails => (answers.failed fails).trans same

theorem Sound.heard_floatingEditMode
    (modeId : Nat)
    (pane : Option Nat)
    (kind : Option Session.FloatingEditKind)
    (fits : (ServerControl.floatingEditState modeId pane.isSome pane
      (kindName kind)).Fits) :
    Heard connection
      (connection.floatingEditMode parsing modeId pane kind) := by
  unfold floatingEditMode
  dsimp only
  refine sound.heard_andThen ?_ fun middle still =>
    still.heard_sendControl rfl rfl fits
  have quiet : ∀ {mode : Option Nat} {scanner : Scanner},
      Quiet connection
        { connection with floatMode := mode, floatScanner := scanner } :=
    ⟨rfl, rfl, rfl, rfl, rfl, rfl⟩
  split
  · exact ⟨quiet, Or.inl rfl⟩
  split
  · split
    · exact ⟨quiet, Or.inl rfl⟩
    split
    · exact quietly_feedInput parsing quiet _
    · exact ⟨quiet, Or.inl rfl⟩
  · exact ⟨Quiet.refl connection, Or.inl rfl⟩

variable {adapter : SessionAdapter}

/-- Media for a client that takes it goes to the bridge worker. -/
theorem Sound.heard_media
    (attached : connection.session = some adapter)
    (takes : adapter.vivid = true)
    {message : ServerMessage}
    (handled : ∀ worker, connection.bridge = some worker →
      ∃ queued, connection.handleSessionMessage parsing message =
        ({ connection with bridge := some queued }, none)) :
    Heard connection (connection.handleSessionMessage parsing message) := by
  obtain ⟨worker, running⟩ :=
    Option.isSome_iff_exists.mp (sound.bridged adapter attached takes)
  obtain ⟨queued, result⟩ := handled worker running
  rw [result]
  refine ⟨⟨⟨sound.running, sound.watched, sound.shows, sound.started,
    fun _ _ _ => rfl⟩, rfl, ?_, fun _ => rfl, fun same => nomatch same⟩,
    Or.inl rfl⟩
  exact fun _ => (List.append_nil _).symm

theorem Sound.heard_handleSessionMessage
    (attached : connection.session = some adapter)
    {message : ServerMessage}
    (forwarded : adapter.forwards message = true)
    (fits : ∀ control, message.control = some control → control.Fits)
    (expected : message.attachment = true) :
    Heard connection (connection.handleSessionMessage parsing message) := by
  have present : connection.session.isSome = true := by
    rw [attached]
    rfl
  cases message with
  | attached => cases expected
  | render frameId last bytes =>
      exact sound.heard_render present frameId last bytes parsing
  | title title =>
      exact sound.heard_sendControl rfl rfl (fits _ rfl)
  | bell | clipboard text | status message =>
      exact sound.heard_sendControl rfl rfl (fits _ rfl)
  | mediaSnapshot revision =>
      refine sound.heard_media parsing attached forwarded fun worker running =>
        ⟨⟨worker.queued ++ [.snapshot revision]⟩, ?_⟩
      simp only [handleSessionMessage, running]
  | mediaRecord deliveryId =>
      refine sound.heard_media parsing attached forwarded fun worker running =>
        ⟨⟨worker.queued ++ [.media deliveryId]⟩, ?_⟩
      simp only [handleSessionMessage, running]
  | detached reason =>
      simp only [handleSessionMessage]
      apply sound.heard_leave present _ rfl rfl (fits _ rfl) <;>
        exact fun _ => rfl
  | floatingEditMode modeId pane kind =>
      exact sound.heard_floatingEditMode parsing modeId pane kind (fits _ rfl)
  | error message =>
      simp only [handleSessionMessage, sendError]
      apply sound.heard_leave present _ rfl rfl (fits _ rfl) <;>
        exact fun _ => rfl
  | pong => exact sound.heard_quietly ⟨Quiet.refl connection, Or.inl rfl⟩
  | automation => cases expected
  | automationChunk => cases expected

theorem Sound.heard_checkClientLiveness
    (pingDue : Bool) :
    Heard connection (connection.checkClientLiveness false pingDue) := by
  unfold checkClientLiveness
  rw [if_neg Bool.false_ne_true]
  split
  · have passive : Passive .ping := ⟨rfl, rfl, fun _ => rfl⟩
    exact ⟨sound.answers_send passive, Or.inl rfl⟩
  · exact sound.heard_quietly ⟨Quiet.refl connection, Or.inl rfl⟩

end

/-! ## Turns -/

/-- The protocol of an attachment, as the client and the session see it. -/
structure Orderly (connection : Connection Input Scanner) : Prop where
  /-- Every request has one reply, the last one perhaps none where the
  connection has ended. -/
  answered : ∃ owed : List Nat,
    connection.requests = replies connection.sent ++ owed ∧
      owed.length ≤ 1 ∧ (connection.ended = none → owed = [])
  /-- Each frame comes where it may; the client's terminal is in use exactly
  while a session is attached, and it is restored at the end. -/
  framed : ∃ place, watch connection.sent = some place ∧
    place ≠ .greeted ∧
    (place = .attached ↔ connection.session.isSome = true) ∧
    (connection.ended = none → place ≠ .leaving) ∧
    (connection.ended ≠ none → place ≠ .attached)
  /-- The frames of each attachment are the bytes of the session. -/
  shows : shown connection.sent = connection.received
  /-- A message of the session ends the connection at most where the queue to
  the session is full. -/
  unharmed : ∀ failure,
    connection.ended = some (.failed .session failure) →
      failure = .sessionQueue

/-- What the runs keep. -/
structure Kept (connection : Connection Input Scanner) : Prop where
  orderly : connection.Orderly
  sound : connection.ended = none → connection.Sound
  asks : connection.ended = none →
    connection.requests = replies connection.sent

theorem Sound.kept
    (sound : connection.Sound)
    (asks : connection.requests = replies connection.sent) :
    connection.Kept where
  sound _ := sound
  asks _ := asks
  orderly := by
    refine ⟨⟨[], ?_, Nat.zero_le 1, fun _ => rfl⟩,
      ⟨connection.place, sound.watched, ?_⟩, sound.shows, ?_⟩
    · rw [asks, List.append_nil]
    · unfold place
      split
      · rename_i attached
        simp [attached, sound.running]
      · rename_i detached
        simp [detached]
    · intro failure ended
      rw [sound.running] at ended
      cases ended

/-- A sound connection that ends restores the terminal. -/
theorem Sound.kept_finish
    (sound : connection.Sound)
    (owed : List Nat)
    (asks : connection.requests = replies connection.sent ++ owed)
    (few : owed.length ≤ 1)
    {ending : Ending}
    (unharmed : ∀ failure, ending = .failed .session failure →
      failure = .sessionQueue) :
    (connection.finish ending).Kept := by
  have watched := sound.watched
  unfold place at watched
  have fine : ∀ failure,
      (connection.finish ending).ended = some (.failed .session failure) →
        failure = .sessionQueue := fun failure same =>
    unharmed failure (Option.some.inj same)
  refine ⟨⟨⟨owed, ?_, few, fun none => nomatch none⟩, ?_, ?_, fine⟩,
    (fun none => nomatch none), fun none => nomatch none⟩
  · unfold finish
    dsimp only
    split
    · show connection.requests = replies (connection.sent ++ [_]) ++ owed
      rw [replies_append, replies_singleton, asks]
      exact congrArg (· ++ owed) (List.append_nil _).symm
    · exact asks
  · unfold finish
    dsimp only
    split
    · rename_i attached
      refine ⟨.leaving, ?_, by simp⟩
      show watch (connection.sent ++ [_]) = some .leaving
      rw [watch_append, watched, if_pos attached]
      rfl
    · rename_i detached
      refine ⟨.idle, ?_, by simp⟩
      show watch connection.sent = some .idle
      rw [watched, if_neg detached]
  · unfold finish
    dsimp only
    split
    · show shown (connection.sent ++ [_]) = connection.received
      rw [shown_append, sound.shows]
      rfl
    · exact sound.shows

theorem kept_conclude
    {turn : Turn}
    (sound : handled.1.Sound)
    (owed : List Nat)
    (asks : handled.1.requests = replies handled.1.sent ++ owed)
    (few : owed.length ≤ 1)
    (paid : handled.2 = none → owed = [])
    (unstalled : handled.2 ≠ some .stalled)
    (unharmed : turn = .session →
      handled.2 = none ∨ handled.2 = some .sessionQueue) :
    (conclude turn handled).Kept := by
  unfold conclude
  split
  · rename_i fine
    refine sound.kept ?_
    rw [asks, paid fine, List.append_nil]
  · rename_i failure failed
    have other : failure ≠ .stalled := fun same =>
      unstalled (failed.trans (congrArg some same))
    dsimp only
    rw [if_neg other]
    refine sound.kept_finish owed asks few fun ended same => ?_
    obtain ⟨rfl, rfl⟩ := Ending.failed.inj same
    rcases unharmed rfl with fine | queue
    · rw [failed] at fine
      cases fine
    · rw [failed] at queue
      exact Option.some.inj queue

theorem Heard.kept_conclude
    (heard : Heard before handled)
    (asks : before.requests = replies before.sent)
    (turn : Turn) : (conclude turn handled).Kept := by
  have same : replies handled.1.sent = replies before.sent := by
    by_cases fine : handled.2 = none
    · rw [heard.answers.replied fine]
      exact List.append_nil _
    · exact heard.answers.failed fine
  refine Connection.kept_conclude heard.answers.sound [] ?_ (Nat.zero_le 1)
    (fun _ => rfl) heard.answers.unstalled
    (fun _ => heard.unharmed)
  rw [heard.answers.requests, asks, same, List.append_nil]

end Connection

/-- The gateway can encode what the session says, the session says it to an
attached client, its reader kept up when its connection closes, and the client
is not given up for being silent. -/
def Seemly
    (_ : Connection Input Scanner) :
    Event → Prop
  | .session message _ =>
      (∀ control, message.control = some control → control.Fits) ∧
        message.attachment = true
  | .sessionClosed overloaded => overloaded = false
  | .tick _ _ stalled _ => stalled = false
  | _ => True

open Connection

/-- A session that closes ends the attachment as a `detached` of it does. -/
theorem sessionClosed_eq
    (connection : Connection Input Scanner) :
    connection.sessionClosed false =
      conclude .session
        (((connection.send (.binary .leave)).sendControl
          (.detached "session connection closed".toList)).andThen
            fun connection =>
              ({ connection with session := none, bridge := none }, none)) := by
  have fits : (ServerControl.detached
      "session connection closed".toList).Fits := by
    decide
  unfold sessionClosed
  rw [sendControl_of_fits _ fits]
  dsimp only
  rw [sendControl_of_fits _ fits]
  rfl

/-- One case for each kind of event. -/
theorem Connection.Kept.turn
    {parsing : Parsing Input Scanner}
    {before after : Connection Input Scanner}
    (kept : before.Kept)
    {event : Event}
    (seemly : Seemly before event)
    (turned : turn parsing before event = some after) : after.Kept := by
  unfold Gateway.turn at turned
  split at turned
  · cases turned
  rename_i running
  have unended : before.ended = none := by simpa using running
  have sound := kept.sound unended
  have asks := kept.asks unended
  have roomy : ∀ room, (before.withRoom room).Sound := fun room =>
    sound.quiet (quiet_withRoom before room)
  cases event with
  | socket message outside =>
      cases turned
      obtain ⟨owed, few, still, asked, paid, unstalled⟩ :=
        (roomy outside.room).answers_handleSocketMessage parsing outside asks
          message
      exact kept_conclude still owed asked few paid unstalled
        (fun same => nomatch same)
  | socketFailed =>
      cases turned
      refine kept_conclude sound [] ?_ (Nat.zero_le 1)
        (fun _ => rfl) (fun same => nomatch same) (fun same => nomatch same)
      rw [asks, List.append_nil]
  | socketEnded =>
      cases turned
      refine sound.kept_finish [] ?_ (Nat.zero_le 1)
        (fun _ same => nomatch same)
      rw [asks, List.append_nil]
  | session message room =>
      simp only at turned
      split at turned
      · cases turned
      rename_i adapter attached
      split at turned
      · rename_i forwarded
        cases turned
        have there : (before.withRoom room).session =
            some { adapter with room := room } := by
          unfold withRoom
          rw [attached]
          rfl
        refine Heard.kept_conclude
          ((roomy room).heard_handleSessionMessage parsing there ?_ seemly.1
            seemly.2) asks .session
        cases message <;> exact forwarded
      · cases turned
  | sessionClosed overloaded =>
      have kept : overloaded = false := seemly
      subst kept
      simp only at turned
      split at turned
      · rename_i attached
        cases turned
        rw [sessionClosed_eq]
        refine Heard.kept_conclude (sound.heard_leave attached _ rfl rfl
          (by decide) _ ?_ ?_ ?_ ?_ ?_) asks .session <;>
          exact fun _ => rfl
      · cases turned
  | tick now room stalled pingDue =>
      have awake : stalled = false := seemly
      subst awake
      simp only at turned
      split at turned
      · cases turned
        refine Heard.kept_conclude ((roomy room).heard_andThen
          (quietly_expireFloatMode parsing now _) fun middle still => ?_)
          asks .tick
        exact still.heard_checkClientLiveness pingDue
      · cases turned

/-- The protocol of an attachment: every request has its reply, the frames of
an attachment come in their order and are the bytes of the session, and the
session ends the connection by nothing it says. -/
theorem attachments_orderly
    (parsing : Parsing Input Scanner)
    {connection : Connection Input Scanner}
    (reachable : (connectionMachine parsing).Reachable Seemly connection) :
    connection.Orderly := by
  have preserved : (connectionMachine parsing).Preserved Seemly Kept :=
    fun _ _ _ kept seemly turned => kept.turn seemly turned
  have kept : connection.Kept := by
    refine reachable.invariant ?_ preserved
    rintro start rfl
    have sound : (parsing.greeted).Sound := by
      refine ⟨rfl, rfl, rfl, ?_, ?_⟩
      · exact fun attached => nomatch attached
      · exact fun _ attached => nomatch attached
    exact sound.kept rfl
  exact kept.orderly

/-! ## Runs -/

/-- Parsers that pass all bytes on. -/
def plainParsing : Parsing Unit Unit where
  prefixParser := ()
  floatEditScanner := ()
  feed _ bytes := ([.input bytes], ())
  scan _ _ bytes := (([], bytes), ())
  expire _ _ := (none, ())
  reset _ := ([], ())

/-- The world outside at an attach that succeeds. -/
def welcome : Outside where
  now := 0
  room := 256
  sessions := .finished (.ok [])
  created := .finished (.ok ())
  connected := .ok ("work".toList, true)
  bridge := .finished (.ok ())
  worker := .ok ()

def attachRequest : ClientControl :=
  .attach 1 "work".toList
    { columns := 80, rows := 24, cellWidth := 8, cellHeight := 16 } false false

/-- Attach, show two renders, hear a title and be detached. -/
def shortVisit : List Event :=
  [.socket (.text 90 (.ok attachRequest)) welcome,
    .session (.render 1 false [104, 105]) 256,
    .session (.title "work".toList) 256,
    .tick 1 256 false true,
    .session (.render 1 true [33]) 256,
    .session (.detached "bye".toList) 256]

/-- The events of a run that the gateway gets along with. -/
def seemlyCheck
    (_ : Connection Unit Unit) :
    Event → Bool
  | .session message _ =>
      message.attachment &&
        (message.control.all fun control => decide control.Fits)
  | .sessionClosed overloaded => !overloaded
  | .tick _ _ stalled _ => !stalled
  | _ => true

theorem seemly_of_check
    (before : Connection Unit Unit)
    (event : Event)
    (checked : seemlyCheck before event = true) : Seemly before event := by
  cases event with
  | session message room =>
      simp only [seemlyCheck, Bool.and_eq_true] at checked
      refine ⟨fun control same => ?_, checked.1⟩
      have fits := checked.2
      rw [same] at fits
      simpa using fits
  | sessionClosed overloaded | tick now room stalled pingDue =>
      simpa [seemlyCheck, Seemly] using checked
  | socket message outside => trivial
  | socketFailed => trivial
  | socketEnded => trivial

/-- The connection after the visit. -/
def afterVisit : Connection Unit Unit :=
  (Machine.follow (turn plainParsing) seemlyCheck plainParsing.greeted
    shortVisit).getD plainParsing.greeted

/-- The visit is a run of seemly events, and what it sent is in order. -/
theorem attachments_orderly_visit :
    afterVisit.received = [[104, 105, 33]] ∧ afterVisit.Orderly := by
  have followed : (Machine.follow (turn plainParsing) seemlyCheck
      plainParsing.greeted shortVisit).isSome = true := by
    decide +kernel
  refine ⟨by decide +kernel, attachments_orderly plainParsing ?_⟩
  obtain ⟨last, same⟩ := Option.isSome_iff_exists.mp followed
  have reached : afterVisit = last := by
    unfold afterVisit
    rw [same]
    rfl
  rw [reached]
  exact Machine.Reachable.follow (fun _ _ _ stepped => stepped)
    seemly_of_check (.initial rfl) same

/-! ## A long clipboard -/

theorem utf8Length_append
    (front back : Text) :
    utf8Length (front ++ back) = utf8Length front + utf8Length back := by
  unfold utf8Length
  rw [List.map_append, List.sum_append]

/-- Escaping makes no character shorter. -/
theorem utf8Size_le_escape
    (character : Char) :
    character.utf8Size ≤ utf8Length (escape character) := by
  have single : ∀ escaped : Text, escaped.length ≠ 0 →
      1 ≤ utf8Length escaped := by
    intro escaped some
    cases escaped with
    | nil => exact absurd rfl some
    | cons head rest =>
        unfold utf8Length
        rw [List.map_cons, List.sum_cons]
        exact Nat.le_trans head.utf8Size_pos (Nat.le_add_right _ _)
  by_cases small : character.val ≤ 127
  · have one : character.utf8Size = 1 := by
      unfold Char.utf8Size
      exact if_pos small
    rw [one]
    apply single
    unfold escape
    split <;> try exact Nat.succ_ne_zero _
    split <;> exact Nat.succ_ne_zero _
  · have large : 127 < character.toNat :=
      Nat.lt_of_not_le fun le => small (UInt32.le_iff_toNat_le.mpr le)
    have same : escape character = [character] := by
      unfold escape
      split
      case h_8 => rw [if_neg (by omega)]
      all_goals exact absurd large (by omega)
    rw [same]
    exact Nat.le_refl _

theorem utf8Length_le_quoted
    (text : Text) : utf8Length text ≤ utf8Length (quoted text) := by
  have escaped : utf8Length text ≤ utf8Length (text.flatMap escape) := by
    induction text with
    | nil => exact Nat.le_refl _
    | cons character rest ih =>
        rw [List.flatMap_cons, utf8Length_append]
        exact Nat.add_le_add (utf8Size_le_escape character) ih
  unfold quoted
  rw [utf8Length_append, utf8Length_append]
  omega

theorem utf8Length_le_clipboard
    (text : Text) :
    utf8Length text ≤ utf8Length (ServerControl.clipboard text).encode := by
  have here := utf8Length_le_quoted text
  simp only [ServerControl.encode, tagged, object, member, List.intercalate,
    utf8Length_append, List.intersperse, List.flatten_cons]
  omega

/-- A clipboard text over the limit ends the connection that it comes to. -/
theorem Connection.clipboard_ends
    (parsing : Parsing Input Scanner)
    {connection : Connection Input Scanner}
    (running : connection.ended = none)
    (attached : connection.session.isSome = true)
    {text : Text}
    (long : maxControlBytes < utf8Length text)
    (room : Nat) :
    turn parsing connection (.session (.clipboard text) room) =
      some ((connection.withRoom room).finish
        (.failed .session .tooLong)) := by
  obtain ⟨adapter, same⟩ := Option.isSome_iff_exists.mp attached
  have beyond := Nat.lt_of_lt_of_le long (utf8Length_le_clipboard text)
  unfold turn
  simp only [running, same, SessionAdapter.forwards, handleSessionMessage,
    sendControl, if_pos beyond]
  rfl

/-- The connection after the attach. -/
def afterAttach : Connection Unit Unit :=
  (turn plainParsing plainParsing.greeted
    (.socket (.text 90 (.ok attachRequest)) welcome)).getD
      plainParsing.greeted

/-- Attach, and have a text of 65537 characters copied in the session. -/
theorem clipboard_ends_attachment :
    ¬ ∀ connection : Connection Unit Unit,
      (connectionMachine plainParsing).Reachable (fun _ _ => True)
        connection → connection.Orderly := by
  intro always
  have stepped : turn plainParsing plainParsing.greeted
      (.socket (.text 90 (.ok attachRequest)) welcome) =
        some afterAttach := by
    have attaches : (turn plainParsing plainParsing.greeted
        (.socket (.text 90 (.ok attachRequest)) welcome)).isSome = true := by
      decide +kernel
    obtain ⟨after, same⟩ := Option.isSome_iff_exists.mp attaches
    unfold afterAttach
    rw [same]
    rfl
  have long : maxControlBytes < utf8Length (List.replicate 65537 'a') := by
    unfold utf8Length
    rw [List.map_replicate, List.sum_replicate_nat]
    decide
  have running : afterAttach.ended = none := by
    decide +kernel
  have attached : afterAttach.session.isSome = true := by
    decide +kernel
  have ended := clipboard_ends plainParsing running attached long 256
  have orderly := always _
    (.step (.step (.initial rfl) trivial stepped) trivial ended)
  cases orderly.unharmed .tooLong rfl

end Gateway
end Vvmux
