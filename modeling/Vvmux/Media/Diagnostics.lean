import Vvmux.Library.Machine
import Vvmux.Media.Sources

/-!
# Reduced diagnostics

The presenter traces the records of its connections.  Under a capture policy
that reduces diagnostics the records of a source are traced in a restricted
form, which leaves the object ID out.  Every connection has a set of restricted
sources of its own: the control connection's grows with every record that names
a policy, a media connection's is filled once, from the policy that its source
has when the connection attaches.

The model follows one producer.  Its control connection and its media
connections are read by threads of their own, and a record may be written on
the control connection at any time.
-/

namespace Vvmux
namespace Diagnostics

open Media (Protocol tightenedCapturePolicy)

/-- The constants of the protocol library that tracing depends on. -/
structure Messages where
  attachChannel : Nat
  createRaster : Nat
  createImage : Nat
  createVideo : Nat
  createAudio : Nat
  setSourcePolicy : Nat
  capturePolicyReduceDiagnostics : Nat

/-- A record with what the parsers find in its body. -/
structure Record where
  recordType : Nat
  objectId : Nat
  /-- The capture policy that the parsers of `body_restricts_trace` find. -/
  tracedPolicy : Option Nat
  /-- The source and the capture policy that the dispatcher's parsers find. -/
  named : Option (Nat × Nat)

inductive Direction
  | send
  | receive
  deriving DecidableEq

/-- The calls of the trace emitter. -/
inductive Emission
  | restrictedSource (direction : Direction) (recordType : Nat)
  | media (direction : Direction) (recordType : Nat) (objectId : Option Nat)
  | control (direction : Direction) (recordType : Nat) (objectId : Option Nat)
  deriving DecidableEq

def Emission.isRestricted : Emission → Bool
  | .restrictedSource _ _ => true
  | .media _ _ _ => false
  | .control _ _ _ => false

def Emission.objectId : Emission → Option Nat
  | .restrictedSource _ _ => none
  | .media _ _ objectId => objectId
  | .control _ _ objectId => objectId

variable (messages : Messages) (protocol : Protocol)

def reduces (policy : Nat) : Bool :=
  policy &&& messages.capturePolicyReduceDiagnostics != 0

def creates (recordType : Nat) : Bool :=
  recordType ∈ [messages.createRaster, messages.createImage,
    messages.createVideo, messages.createAudio]

def namesPolicy (recordType : Nat) : Bool :=
  creates messages recordType || recordType == messages.setSourcePolicy

structure TraceChannel where
  restrictedSources : List Nat

def TraceChannel.markSourcePolicy
    (trace : TraceChannel)
    (sourceId capturePolicy : Nat) : TraceChannel :=
  if reduces messages capturePolicy then
    ⟨trace.restrictedSources.insert sourceId⟩
  else trace

def bodyRestrictsTrace (record : Record) : Bool :=
  namesPolicy messages record.recordType &&
    record.tracedPolicy.any (reduces messages)

def TraceChannel.emit
    (trace : TraceChannel)
    (direction : Direction)
    (record : Record) : Emission :=
  if record.recordType = messages.attachChannel ∨ record.objectId ≠ 0 ∧
      (record.objectId ∈ trace.restrictedSources ∨
        bodyRestrictsTrace messages record = true) then
    .restrictedSource direction record.recordType
  else
    let objectId :=
      if record.objectId ≠ 0 then some record.objectId else none
    if messages.attachChannel ≤ record.recordType then
      .media direction record.recordType objectId
    else .control direction record.recordType objectId

/-- The record that the control connection's thread is at. -/
inductive Handling
  | idle
  | received (record : Record)
  | marked (record : Record)

/-- How far `handle_media` has come. -/
inductive Phase
  | ticketed
  | looked (capturePolicy : Nat)
  | receiving
  | closed

/-- A media connection; `informed` records whether the source's diagnostics
were reduced when its capture policy was looked up. -/
structure Channel where
  source : Nat
  phase : Phase
  informed : Bool
  trace : TraceChannel

/-- `reduced` and `trace` record the run: the sources whose policy has come to
reduce diagnostics since they were created, and the emissions, the last one
first, with whether the source in the record's header was among those. -/
structure State where
  sources : Nat → Option Nat
  control : TraceChannel
  handling : Handling
  channels : Nat → Option Channel
  reduced : Nat → Bool
  trace : List (Bool × Emission)

def State.start : State where
  sources _ := none
  control := ⟨[]⟩
  handling := .idle
  channels _ := none
  reduced _ := false
  trace := []

def State.emit
    (state : State)
    (trace : TraceChannel)
    (direction : Direction)
    (record : Record) : State :=
  { state with
    trace := (state.reduced record.objectId,
      trace.emit messages direction record) :: state.trace }

/-- What the dispatcher marks as soon as it has parsed the body. -/
def marksPolicy (record : Record) (trace : TraceChannel) : TraceChannel :=
  match record.named with
  | some (sourceId, capturePolicy) =>
      if namesPolicy messages record.recordType then
        trace.markSourcePolicy messages sourceId capturePolicy
      else trace
  | none => trace

/-- The policy that `create_source` or `SET_SOURCE_POLICY` stores for a
source. -/
def storedPolicy
    (sources : Nat → Option Nat)
    (record : Record)
    (sourceId capturePolicy : Nat) : Option Nat :=
  if record.objectId ≠ sourceId then none
  else if creates messages record.recordType then
    if sourceId = 0 ∨ (sources sourceId).isSome then none
    else some capturePolicy
  else if record.recordType = messages.setSourcePolicy then
    match sources sourceId with
    | none => none
    | some current =>
        match tightenedCapturePolicy protocol current capturePolicy with
        | .ok tightened => tightened
        | .error _ => none
  else none

/-- The sources once the dispatcher has let the record pass its checks of
features, quotas and descriptors. -/
def State.store (state : State) (record : Record) : State :=
  match record.named with
  | none => state
  | some (sourceId, capturePolicy) =>
      match storedPolicy messages protocol state.sources record sourceId
          capturePolicy with
      | none => state
      | some stored =>
          { state with
            sources := Function.update state.sources sourceId (some stored)
            reduced := Function.update state.reduced sourceId
              (reduces messages stored ||
                (state.sources sourceId).isSome && state.reduced sourceId) }

def State.setChannel
    (state : State)
    (connection : Nat)
    (channel : Channel) : State :=
  { state with
    channels := Function.update state.channels connection (some channel) }

inductive Event
  /-- The control connection's reader returns a record. -/
  | receive (record : Record)
  | mark
  | settle (passes : Bool)
  /-- Some thread writes a record on the control connection. -/
  | write (record : Record)
  | remove (sourceId : Nat)
  /-- A media connection redeems its ticket with its first record. -/
  | attach (connection sourceId objectId : Nat)
  | look (connection : Nat)
  | markAttached (connection : Nat)
  | read (connection : Nat) (record : Record)
  | close (connection : Nat)

def next (state : State) : Event → Option State
  | .receive record =>
      match state.handling with
      | .idle =>
          some { state.emit messages state.control .receive record with
            handling := .received record }
      | _ => none
  | .mark =>
      match state.handling with
      | .received record =>
          some { state with
            control := marksPolicy messages record state.control
            handling := .marked record }
      | _ => none
  | .settle passes =>
      match state.handling with
      | .marked record =>
          let settled :=
            if passes then state.store messages protocol record else state
          some { settled with handling := .idle }
      | _ => none
  | .write record => some (state.emit messages state.control .send record)
  | .remove sourceId =>
      some { state with
        sources := Function.update state.sources sourceId none }
  | .attach connection sourceId objectId =>
      match state.channels connection with
      | none =>
          some ((state.emit messages ⟨[]⟩ .receive
              ⟨messages.attachChannel, objectId, none, none⟩).setChannel
            connection ⟨sourceId, .ticketed, false, ⟨[]⟩⟩)
      | some _ => none
  | .look connection =>
      match state.channels connection with
      | some ⟨sourceId, .ticketed, _, trace⟩ =>
          match state.sources sourceId with
          | some capturePolicy =>
              some (state.setChannel connection ⟨sourceId,
                .looked capturePolicy, state.reduced sourceId, trace⟩)
          | none =>
              some (state.setChannel connection
                ⟨sourceId, .closed, false, trace⟩)
      | _ => none
  | .markAttached connection =>
      match state.channels connection with
      | some ⟨sourceId, .looked capturePolicy, informed, trace⟩ =>
          some (state.setChannel connection ⟨sourceId, .receiving, informed,
            trace.markSourcePolicy messages sourceId capturePolicy⟩)
      | _ => none
  | .read connection record =>
      match state.channels connection with
      | some ⟨sourceId, .receiving, informed, trace⟩ =>
          -- The record is traced before its object ID is compared.
          some ((state.emit messages trace .receive record).setChannel
            connection ⟨sourceId,
              if record.objectId = sourceId then .receiving else .closed,
              informed, trace⟩)
      | _ => none
  | .close connection =>
      match state.channels connection with
      | some channel =>
          some (state.setChannel connection
            { channel with phase := .closed, informed := false })
      | none => none

def machine : Library.Machine State Event where
  initial state := state = .start
  step before event after := next messages protocol before event = some after

/-- No record of a source with reduced diagnostics comes over a media
connection that is attached to another source, or that looked the policy up
before it came to reduce diagnostics. -/
def InformedReads (state : State) : Event → Prop
  | .read connection record =>
      ∀ channel, state.channels connection = some channel →
        state.reduced record.objectId = true →
          record.objectId = channel.source ∧ channel.informed = true ∨
            record.recordType = messages.attachChannel ∨
            bodyRestrictsTrace messages record = true
  | _ => True

/-! ## What is marked -/

theorem TraceChannel.mem_markSourcePolicy
    (trace : TraceChannel)
    {sourceId capturePolicy : Nat}
    (reducing : reduces messages capturePolicy = true) :
    sourceId ∈
      (trace.markSourcePolicy messages sourceId
        capturePolicy).restrictedSources := by
  simp [markSourcePolicy, reducing]

theorem TraceChannel.markSourcePolicy_subset
    (trace : TraceChannel)
    (sourceId capturePolicy : Nat) :
    trace.restrictedSources ⊆
      (trace.markSourcePolicy messages sourceId
        capturePolicy).restrictedSources := by
  intro restricted present
  unfold markSourcePolicy
  split
  · exact List.mem_insert_of_mem present
  · exact present

theorem marksPolicy_subset
    (record : Record)
    (trace : TraceChannel) :
    trace.restrictedSources ⊆
      (marksPolicy messages record trace).restrictedSources := by
  unfold marksPolicy
  split
  · split
    · exact trace.markSourcePolicy_subset messages _ _
    · exact fun _ present => present
  · exact fun _ present => present

/-- A connection traces the sources it was marked with in the restricted
form. -/
theorem TraceChannel.emit_restricted
    (trace : TraceChannel)
    (direction : Direction)
    (record : Record)
    (restricting : record.recordType = messages.attachChannel ∨
      record.objectId ≠ 0 ∧
        (record.objectId ∈ trace.restrictedSources ∨
          bodyRestrictsTrace messages record = true)) :
    trace.emit messages direction record =
      .restrictedSource direction record.recordType := by
  unfold emit
  rw [if_pos restricting]

/-- Tightening keeps the bits that are set. -/
theorem reduces_of_tightened
    {current requested tightened : Nat}
    (accepted : tightenedCapturePolicy protocol current requested =
      .ok (some tightened))
    (reducing : reduces messages current = true) :
    reduces messages tightened = true := by
  unfold tightenedCapturePolicy at accepted
  split at accepted
  · cases accepted
  · split at accepted
    · cases accepted
    · rename_i kept
      push Not at kept
      split at accepted
      · cases accepted
      · cases accepted
        simp only [reduces, bne_iff_ne, ne_eq] at reducing ⊢
        intro cleared
        apply reducing
        rw [← kept, Nat.and_assoc, Nat.and_comm current, ← Nat.and_assoc,
          cleared, Nat.zero_and]

variable {record : Record}

/-- What is stored names the source of the header, with the record's policy
and through a record whose policy was marked. -/
theorem storedPolicy_cases
    {sources : Nat → Option Nat}
    {sourceId capturePolicy stored : Nat}
    (stores : storedPolicy messages protocol sources record sourceId
      capturePolicy = some stored) :
    stored = capturePolicy ∧
      namesPolicy messages record.recordType = true ∧
      (sources sourceId = none ∧ sourceId ≠ 0 ∨
        ∃ current, sources sourceId = some current ∧
          tightenedCapturePolicy protocol current capturePolicy =
            .ok (some stored)) := by
  unfold storedPolicy at stores
  split at stores
  · cases stores
  · split at stores
    · rename_i creating
      split at stores
      · cases stores
      · rename_i fresh
        push Not at fresh
        cases stores
        refine ⟨rfl, by simp [namesPolicy, creating], .inl ⟨?_, fresh.1⟩⟩
        simpa using fresh.2
    · split at stores
      · rename_i setting
        split at stores
        · cases stores
        · rename_i current found
          split at stores
          · rename_i tightened accepted
            subst stores
            refine ⟨?_, by simp [namesPolicy, setting],
              .inr ⟨current, found, accepted⟩⟩
            unfold tightenedCapturePolicy at accepted
            split at accepted
            · cases accepted
            · split at accepted
              · cases accepted
              · split at accepted
                · cases accepted
                · cases accepted
                  rfl
          · cases stores
      · cases stores

/-! ## The invariant -/

/-- The connection is on its way to restrict its source, if it was informed. -/
def Channel.Keeps (channel : Channel) : Prop :=
  match channel.phase with
  | .ticketed => channel.informed = false
  | .looked capturePolicy =>
      channel.informed = true → reduces messages capturePolicy = true
  | .receiving =>
      channel.informed = true →
        channel.source ∈ channel.trace.restrictedSources
  | .closed => True

/-- A record between its mark and its settlement. -/
def Handling.Marked
    (trace : TraceChannel) :
    Handling → Prop
  | .marked record =>
      ∀ sourceId capturePolicy,
        record.named = some (sourceId, capturePolicy) →
          namesPolicy messages record.recordType = true →
            reduces messages capturePolicy = true →
              sourceId ∈ trace.restrictedSources
  | _ => True

structure State.Sound (state : State) : Prop where
  sources : ∀ sourceId capturePolicy,
    state.sources sourceId = some capturePolicy →
      sourceId ≠ 0 ∧ (state.reduced sourceId = true →
        reduces messages capturePolicy = true)
  marked : ∀ sourceId, state.reduced sourceId = true →
    sourceId ≠ 0 ∧ sourceId ∈ state.control.restrictedSources
  handled : state.handling.Marked messages state.control
  channels : ∀ connection channel,
    state.channels connection = some channel → channel.Keeps messages
  quiet : ∀ entry ∈ state.trace, entry.1 = true →
    entry.2.isRestricted = true ∧ entry.2.objectId = none

variable {messages protocol}

theorem State.sound_start : State.start.Sound messages where
  sources _ _ found := nomatch found
  marked _ reduced := nomatch reduced
  handled := trivial
  channels _ _ found := nomatch found
  quiet _ member := nomatch member

section

variable {state : State} (sound : state.Sound messages)
include sound

theorem State.Sound.emit
    (trace : TraceChannel)
    (direction : Direction)
    (record : Record)
    (restricts : state.reduced record.objectId = true →
      record.recordType = messages.attachChannel ∨
        record.objectId ∈ trace.restrictedSources ∨
        bodyRestrictsTrace messages record = true) :
    (state.emit messages trace direction record).Sound messages :=
  { sound with
    quiet := by
      intro entry member due
      rcases List.mem_cons.mp member with rfl | earlier
      · have reduced : state.reduced record.objectId = true := due
        have emitted := trace.emit_restricted messages direction record
          ((restricts reduced).imp_right fun marked =>
            ⟨(sound.marked _ reduced).1, marked⟩)
        rw [emitted]
        exact ⟨rfl, rfl⟩
      · exact sound.quiet entry earlier due }

theorem State.Sound.setChannel
    (connection : Nat)
    {channel : Channel}
    (keeps : channel.Keeps messages) :
    (state.setChannel connection channel).Sound messages :=
  { sound with
    channels := by
      intro other found present
      simp only [State.setChannel, Function.update_apply] at present
      split at present
      · cases present
        exact keeps
      · exact sound.channels other found present }

/-- Marking comes before the settlement, so a source whose policy comes to
reduce diagnostics is restricted on the control connection by then. -/
theorem State.Sound.mark
    (record : Record) :
    { state with
      control := marksPolicy messages record state.control
      handling := .marked record }.Sound messages :=
  { sound with
    marked := fun sourceId reduced =>
      ⟨(sound.marked sourceId reduced).1,
        marksPolicy_subset messages record state.control
          (sound.marked sourceId reduced).2⟩
    handled := by
      intro sourceId capturePolicy named naming reducing
      simp only [marksPolicy, named, naming, if_true]
      exact state.control.mem_markSourcePolicy messages reducing }

theorem State.Sound.store
    (handling : state.handling = .marked record) :
    (state.store messages protocol record).Sound messages := by
  unfold State.store
  split
  · exact sound
  · rename_i sourceId capturePolicy named
    split
    · exact sound
    · rename_i stored stores
      obtain ⟨same, naming, origin⟩ :=
        storedPolicy_cases messages protocol stores
      subst same
      have marked := sound.handled
      rw [handling] at marked
      have nonzero : sourceId ≠ 0 := by
        rcases origin with ⟨_, nonzero⟩ | ⟨current, found, _⟩
        · exact nonzero
        · exact (sound.sources sourceId current found).1
      refine { sound with sources := ?_, marked := ?_ }
      · intro other found present
        simp only [Function.update_apply] at present ⊢
        split at present
        · rename_i same
          subst same
          cases present
          refine ⟨nonzero, fun reduced => ?_⟩
          rw [if_pos rfl] at reduced
          rcases Bool.or_eq_true_iff.mp reduced with reducing | earlier
          · exact reducing
          · obtain ⟨known, before⟩ := Bool.and_eq_true_iff.mp earlier
            rcases origin with ⟨absent, _⟩ | ⟨current, found, accepted⟩
            · simp [absent] at known
            · exact reduces_of_tightened messages protocol accepted
                ((sound.sources other current found).2 before)
        · rename_i different
          rw [if_neg different]
          exact sound.sources other found present
      · intro other reduced
        simp only [Function.update_apply] at reduced
        split at reduced
        · rename_i same
          subst same
          refine ⟨nonzero, ?_⟩
          rcases Bool.or_eq_true_iff.mp reduced with reducing | earlier
          · exact marked other stored named naming reducing
          · exact (sound.marked other (Bool.and_eq_true_iff.mp earlier).2).2
        · exact sound.marked other reduced

theorem State.Sound.remove
    (sourceId : Nat) :
    { state with
      sources := Function.update state.sources sourceId none }.Sound
      messages :=
  { sound with
    sources := by
      intro other capturePolicy found
      simp only [Function.update_apply] at found
      split at found
      · cases found
      · exact sound.sources other capturePolicy found }

end

/-- By cases on the event: only a media connection can be uninformed. -/
theorem State.Sound.next
    {before after : State}
    {event : Event}
    (sound : before.Sound messages)
    (informed : InformedReads messages before event)
    (stepped : next messages protocol before event = some after) :
    after.Sound messages := by
  cases event with
  | receive record =>
      simp only [Diagnostics.next] at stepped
      split at stepped
      · cases stepped
        have traced := sound.emit before.control .receive record fun reduced =>
          .inr (.inl ((sound.marked _ reduced).2))
        exact { traced with handled := trivial }
      · cases stepped
  | mark =>
      simp only [Diagnostics.next] at stepped
      split at stepped
      · cases stepped
        exact sound.mark _
      · cases stepped
  | settle passes =>
      simp only [Diagnostics.next] at stepped
      split at stepped
      · rename_i record handling
        cases stepped
        cases passes with
        | false => exact { sound with handled := trivial }
        | true => exact { sound.store handling with handled := trivial }
      · cases stepped
  | write record =>
      cases stepped
      exact sound.emit before.control .send record fun reduced =>
        .inr (.inl ((sound.marked _ reduced).2))
  | remove sourceId =>
      cases stepped
      exact sound.remove sourceId
  | attach connection sourceId objectId =>
      simp only [Diagnostics.next] at stepped
      split at stepped
      · cases stepped
        have traced := sound.emit ⟨[]⟩ .receive
          ⟨messages.attachChannel, objectId, none, none⟩ fun _ => .inl rfl
        exact traced.setChannel connection rfl
      · cases stepped
  | look connection =>
      simp only [Diagnostics.next] at stepped
      split at stepped
      · rename_i sourceId _ trace _
        split at stepped
        · rename_i capturePolicy found
          cases stepped
          exact sound.setChannel connection
            (sound.sources sourceId capturePolicy found).2
        · cases stepped
          exact sound.setChannel connection trivial
      · cases stepped
  | markAttached connection =>
      simp only [Diagnostics.next] at stepped
      split at stepped
      · rename_i sourceId capturePolicy known trace attached
        cases stepped
        have keeps := sound.channels connection _ attached
        exact sound.setChannel connection fun reduced =>
          trace.mem_markSourcePolicy messages (keeps reduced)
      · cases stepped
  | read connection record =>
      simp only [Diagnostics.next] at stepped
      split at stepped
      · rename_i sourceId known trace attached
        cases stepped
        have keeps := sound.channels connection _ attached
        have traced := sound.emit trace .receive record
          fun reduced => by
            rcases informed _ attached reduced with
              ⟨same, reported⟩ | attaching | restricting
            · exact .inr (.inl (same ▸ keeps reported))
            · exact .inl attaching
            · exact .inr (.inr restricting)
        refine traced.setChannel connection ?_
        split
        · exact keeps
        · trivial
      · cases stepped
  | close connection =>
      simp only [Diagnostics.next] at stepped
      split at stepped
      · cases stepped
        exact sound.setChannel connection trivial
      · cases stepped

/-- Once the policy of a source reduces diagnostics, its records are traced in
the restricted form, as long as media records come over connections that were
attached under that policy. -/
theorem diagnostics_stay_reduced
    {state : State}
    (reachable : (machine messages protocol).Reachable
      (InformedReads messages) state) :
    ∀ entry ∈ state.trace, entry.1 = true →
      entry.2.isRestricted = true ∧ entry.2.objectId = none := by
  have sound : state.Sound messages := by
    refine reachable.invariant ?_ ?_
    · intro start initial
      cases initial
      exact State.sound_start
    · intro before event after sound informed stepped
      exact sound.next informed stepped
  exact sound.quiet

/-! ## Two runs -/

def messageNumbers : Messages where
  attachChannel := 512
  createRaster := 64
  createImage := 65
  createVideo := 66
  createAudio := 67
  setSourcePolicy := 80
  capturePolicyReduceDiagnostics := 1

/-- The events up to the settlement of a control record. -/
def controlled (record : Record) : List Event :=
  [.receive record, .mark, .settle true]

def attached (connection sourceId : Nat) : List Event :=
  [.attach connection sourceId sourceId, .look connection,
    .markAttached connection]

def createSource : Record := ⟨64, 7, some 0, some (7, 0)⟩

def reduceDiagnostics : Record := ⟨80, 7, some 1, some (7, 1)⟩

def rasterFrame : Record := ⟨513, 7, none, none⟩

def informedCheck (state : State) : Event → Bool
  | .read connection record =>
      (state.channels connection).all fun channel =>
        record.objectId == channel.source && channel.informed
  | _ => true

def afterRun
    (allowed : State → Event → Bool)
    (events : List Event) : Option State :=
  Library.Machine.follow
    (next messageNumbers (Media.wellFormedProtocol fun _ _ => true)) allowed
    .start events

theorem reachable_afterRun
    {guard : State → Event → Prop}
    {allowed : State → Event → Bool}
    (checks : ∀ state event, allowed state event = true → guard state event)
    {events : List Event}
    {trace : List (Bool × Emission)}
    (followed : (afterRun allowed events).map State.trace = some trace) :
    ∃ state, (machine messageNumbers (Media.wellFormedProtocol
      fun _ _ => true)).Reachable guard state ∧ state.trace = trace := by
  obtain ⟨state, reached, same⟩ := Option.map_eq_some_iff.mp followed
  exact ⟨state, Library.Machine.Reachable.follow (fun _ _ _ stepped => stepped)
    checks (.initial rfl) reached, same⟩

theorem informedReads_of_check
    (state : State)
    (event : Event)
    (passes : informedCheck state event = true) :
    InformedReads messageNumbers state event := by
  cases event with
  | read connection record =>
      intro channel found _
      simp only [informedCheck, found, Option.all_some, Bool.and_eq_true,
        beq_iff_eq] at passes
      exact .inl passes
  | _ => trivial

/-- The source is attached under the tightened policy, and gets credit. -/
theorem diagnostics_stay_reduced_attached :
    ∃ state : State,
      state.trace.take 3 =
        [(true, .restrictedSource .send 81),
          (true, .restrictedSource .receive 513),
          (true, .restrictedSource .receive 512)] ∧
      ∀ entry ∈ state.trace, entry.1 = true →
        entry.2.isRestricted = true ∧ entry.2.objectId = none := by
  have followed :
      ((afterRun informedCheck (controlled createSource ++
        controlled reduceDiagnostics ++ attached 1 7 ++
        [.read 1 rasterFrame, .write ⟨81, 7, none, none⟩])).map
          State.trace).isSome = true := by
    decide +kernel
  obtain ⟨trace, found⟩ := Option.isSome_iff_exists.mp followed
  obtain ⟨state, reachable, same⟩ :=
    reachable_afterRun informedReads_of_check found
  refine ⟨state, ?_, diagnostics_stay_reduced reachable⟩
  rw [same, ← Option.some_inj, ← Option.map_some, ← found]
  decide +kernel

/-- The policy is tightened while a media connection is attached: the next
record of that connection is traced with its object ID. -/
theorem tightened_policy_traced :
    ¬ ∀ state : State,
      (machine messageNumbers (Media.wellFormedProtocol
        fun _ _ => true)).Reachable (fun _ _ => True) state →
      ∀ entry ∈ state.trace, entry.1 = true →
        entry.2.isRestricted = true ∧ entry.2.objectId = none := by
  intro always
  have followed :
      (afterRun (fun _ _ => true) (controlled createSource ++ attached 1 7 ++
        controlled reduceDiagnostics ++ [.read 1 rasterFrame])).map
          State.trace =
        some [(true, .media .receive 513 (some 7)),
          (false, .restrictedSource .receive 80),
          (false, .restrictedSource .receive 512),
          (false, .control .receive 64 (some 7))] := by
    decide +kernel
  obtain ⟨state, reachable, same⟩ :=
    @reachable_afterRun (fun _ _ => True) _ (fun _ _ _ => trivial) _ _ followed
  have reduced := always state reachable (true, .media .receive 513 (some 7))
    (by rw [same]; exact List.mem_cons_self) rfl
  cases reduced.1

end Diagnostics
end Vvmux
