import Vvmux.Media.Presenter

/-!
# What a step of the presenter can be

A step is a call of the session, or one lock of a thread in a phase, or a step
of the listener, of a barrier worker or of a timer.  What it makes of the shared
state and of the threads is said once here.
-/

namespace Vvmux
namespace Media

open Library

variable (protocol : Protocol) {presenter before after : Presenter}
  {event : PresenterEvent}

/-! ## Threads -/

/-- The thread of a step. -/
def PresenterEvent.thread? :
    PresenterEvent → Option Nat
  | .accept thread _ => some thread
  | .hello thread _ => some thread
  | .markControl thread => some thread
  | .admission thread _ _ => some thread
  | .welcome thread _ => some thread
  | .receiveControl thread _ => some thread
  | .hangUp thread => some thread
  | .run thread _ _ => some thread
  | .refuse thread _ => some thread
  | .leave thread => some thread
  | .presentTicket thread _ => some thread
  | .attach thread => some thread
  | .markChannel thread => some thread
  | .receiveMedia thread _ _ => some thread
  | .endChannel thread => some thread
  | .ingest thread _ _ => some thread
  | .send thread _ => some thread
  | .recover thread => some thread
  | .close thread => some thread
  | .forget thread => some thread
  | _ => none

@[simp] theorem Presenter.phase?_withShared
    (presenter : Presenter)
    (state : State)
    (thread : Nat) :
    (presenter.withShared state).phase? thread = presenter.phase? thread := rfl

theorem Presenter.phase?_move
    (presenter : Presenter)
    (thread : Nat)
    (phase : Phase)
    (query : Nat) :
    (presenter.move thread phase).phase? query =
      if query = thread then (presenter.phase? thread).map fun _ => phase
      else presenter.phase? query := by
  unfold Presenter.phase? Presenter.move
  simp only [OrderedMap.find?_modify]
  split
  · rename_i same
    rw [same]
    cases presenter.threads.find? thread with
    | none => rfl
    | some entry => rfl
  · rfl

variable {thread : Nat}

theorem Presenter.phase?_move_self
    {before : Phase}
    (there : presenter.phase? thread = some before)
    (phase : Phase) :
    (presenter.move thread phase).phase? thread = some phase := by
  rw [Presenter.phase?_move, if_pos rfl, there]
  rfl

/-- Where a control thread goes after one lock. -/
def Progress.phase
    (producer : ProducerId) :
    Progress → Phase
  | .done (.ok true) => .reading producer
  | .done (.ok false) => .leaving producer
  | .done (.error _) => .refusing producer
  | .next task => .busy producer task
  | .timer _ => .reading producer
  | .worker _ => .reading producer

theorem Presenter.threads_proceed
    (presenter : Presenter)
    (thread : Nat)
    (producer : ProducerId)
    (progress : Progress) :
    (presenter.proceed thread producer progress).threads =
      (presenter.move thread (progress.phase producer)).threads := by
  unfold Presenter.proceed Progress.phase
  split <;> rfl

/-- Where a media thread goes after a record was ingested. -/
def settledPhase
    (ticket : Ticket)
    (writable : Bool) :
    Except String Ingested → Phase
  | .error _ => .closing ticket
  | .ok (.rejected _ _ _) =>
      if writable then .receiving ticket else .finished
  | .ok (.accepted (some event) _) => .sending ticket event
  | .ok (.accepted none requestKeyframe) =>
      if !writable then .closing ticket
      else if requestKeyframe then .recovering ticket
      else .receiving ticket

theorem Presenter.threads_settleIngest
    (presenter : Presenter)
    (thread : Nat)
    (ticket : Ticket)
    (writable : Bool)
    (result : Except String Ingested) :
    (presenter.settleIngest thread ticket writable result).threads =
      (presenter.move thread (settledPhase ticket writable result)).threads := by
  match result with
  | .error _ => rfl
  | .ok (.rejected _ _ _) => cases writable <;> rfl
  | .ok (.accepted (some _) _) => rfl
  | .ok (.accepted none requestKeyframe) =>
      cases writable <;> cases requestKeyframe <;> rfl

/-- Where a thread is depends on the threads only. -/
theorem Presenter.phase?_congr
    {first second : Presenter}
    (same : first.threads = second.threads)
    (thread : Nat) : first.phase? thread = second.phase? thread := by
  unfold Presenter.phase?
  rw [same]

/-- The producer that a thread in a phase serves. -/
def Phase.serving? :
    Phase → Option ProducerId
  | .welcoming producer => some producer
  | .reading producer => some producer
  | .busy producer _ => some producer
  | .refusing producer => some producer
  | .leaving producer => some producer
  | _ => none

/-- The event that a thread in a phase is about to send to the session. -/
def Phase.sending? :
    Phase → Option MediaEvent
  | .sending _ event => some event
  | _ => none

@[simp] theorem serving?_settledPhase
    (ticket : Ticket)
    (writable : Bool)
    (result : Except String Ingested) :
    (settledPhase ticket writable result).serving? = none := by
  unfold settledPhase
  split
  · rfl
  · split <;> rfl
  · rfl
  · split
    · rfl
    · split <;> rfl

theorem Presenter.phase?_insert
    {before after : Presenter}
    {entry : Thread}
    (inserted : after.threads = before.threads.insert thread entry)
    (query : Nat) :
    after.phase? query =
      if query = thread then some entry.phase else before.phase? query := by
  unfold Presenter.phase?
  rw [inserted, OrderedMap.find?_insert]
  split <;> rfl

theorem Presenter.phase?_erase
    {before after : Presenter}
    (erased : after.threads = before.threads.erase thread)
    (query : Nat) :
    after.phase? query =
      if query = thread then none else before.phase? query := by
  unfold Presenter.phase?
  rw [erased, OrderedMap.find?_erase]
  split <;> rfl

/-- What a step makes of the phase of its thread. -/
inductive Turn
    (before after : Presenter) :
    PresenterEvent → Phase → Phase → Prop
  | onward (event : PresenterEvent) (old new : Phase) :
      old.sending? = none → new.sending? = none →
      new.serving? = none ∨ new.serving? = old.serving? →
      Turn before after event old new
  | admitted (thread tag : Nat) (spawns : Bool) (old : Phase) :
      old.sending? = none →
      after.shared.nextProducer = before.shared.nextProducer + 1 →
      after.shared.nextProducer ∈ after.shared.producers →
      Turn before after (.admission thread tag spawns) old
        (.welcoming after.shared.nextProducer)
  | ingested (thread now : Nat) (writable : Bool) (ticket : Ticket)
      (record : MediaRecord) :
      Turn before after (.ingest thread now writable)
        (.validated ticket record)
        (settledPhase ticket writable
          (ingestRecord protocol before.shared ticket.source record now).2)
  | sent (thread : Nat) (taken : Bool) (ticket : Ticket) (event : MediaEvent)
      (new : Phase) :
      new.sending? = none → new.serving? = none →
      Turn before after (.send thread taken) (.sending ticket event) new

/-- What a step does to the threads. -/
inductive Threads
    (before after : Presenter) :
    PresenterEvent → Prop
  | still (event : PresenterEvent) :
      after.threads = before.threads → Threads before after event
  | turn (event : PresenterEvent) (thread : Nat) (old new : Phase) :
      event.thread? = some thread →
      before.phase? thread = some old →
      after.threads = (before.move thread new).threads →
      Turn protocol before after event old new →
      Threads before after event
  | start (thread connection : Nat) (channel : Option ConnectionKind) :
      thread ∉ before.threads →
      after.threads = before.threads.insert thread
        ⟨connection, channel.elim .greeting .opening⟩ →
      Threads before after (.accept thread channel)
  | stop (thread : Nat) :
      before.phase? thread = some .finished →
      after.threads = before.threads.erase thread →
      Threads before after (.forget thread)

/-- The ticket of a channel that has presented it and has not attached. -/
def Phase.ticket? :
    Phase → Option Ticket
  | .ticketed _ ticket _ => some ticket
  | _ => none

theorem phase_of_find?
    {thread connection : Nat}
    {phase : Phase}
    (found : presenter.threads.find? thread = some ⟨connection, phase⟩) :
    presenter.phase? thread = some phase := by
  unfold Presenter.phase?
  rw [found]
  rfl

theorem admitProducer_ok
    {state : State}
    {pane : PaneId}
    {tag token : Nat}
    {features : List Feature}
    {spawns : Bool}
    {producer : ProducerId}
    (admitted : (admitProducer protocol state pane tag token features
      spawns).2 = .ok producer) :
    producer = state.nextProducer + 1 ∧
      (admitProducer protocol state pane tag token features
        spawns).1.nextProducer = producer ∧
      producer ∈ (admitProducer protocol state pane tag token features
        spawns).1.producers := by
  unfold admitProducer at admitted ⊢
  split at admitted
  · cases admitted
  · split at admitted
    · cases admitted
    · rename_i room
      rw [if_neg room]
      split at admitted
      · cases admitted
      · rename_i number counted
        obtain ⟨-, rfl⟩ := checkedAdd_eq_some_iff.mp counted
        dsimp only at admitted ⊢
        split at admitted
        · cases admitted
        · rename_i spawned
          cases admitted
          rw [if_neg spawned]
          refine ⟨rfl, rfl, ?_⟩
          exact (OrderedMap.mem_insert _ _ _ _).mpr (.inl rfl)

section

variable (presenter : Presenter)

@[simp] theorem Presenter.shared_withShared
    (state : State) :
    (presenter.withShared state).shared = state := rfl

@[simp] theorem Presenter.shared_move
    (thread : Nat)
    (phase : Phase) :
    (presenter.move thread phase).shared = presenter.shared := rfl

@[simp] theorem Presenter.shared_proceed
    (thread : Nat)
    (producer : ProducerId)
    (progress : Progress) :
    (presenter.proceed thread producer progress).shared =
      presenter.shared := by
  unfold Presenter.proceed
  split <;> rfl

end

/-! ## Steps -/

/-- What a thread in a phase makes of the shared state. -/
inductive Shift
    (presenter : Presenter) :
    PresenterEvent → Phase → State → Prop
  | idle (event : PresenterEvent) (phase : Phase) :
      Shift presenter event phase presenter.shared
  | marks (event : PresenterEvent) (phase : Phase) (connection : Nat)
      (pane : PaneId) :
      Shift presenter event phase
        (markConnectionPane presenter.shared connection pane).1
  | admits (thread tag : Nat) (spawns : Bool) (pane : PaneId) (token : Nat)
      (hello : Hello) :
      Shift presenter (.admission thread tag spawns) (.marked pane token hello)
        (admitProducer protocol presenter.shared pane tag token
          (hello.features.getD []) spawns).1
  | runs (thread : Nat) (circumstance : Circumstance) (writable : Bool)
      (producer : ProducerId) (task : Task) :
      Shift presenter (.run thread circumstance writable) (.busy producer task)
        (runTask protocol ⟨producer, rootContext producer, writable⟩
          presenter.shared circumstance task).1
  | leaves (thread : Nat) (producer : ProducerId) :
      Shift presenter (.leave thread) (.leaving producer)
        (cleanupProducer protocol presenter.shared producer true)
  | takes (thread token : Nat) (kind : ConnectionKind) :
      Shift presenter (.presentTicket thread token) (.opening kind)
        (takeTicket presenter.shared token).1
  | attaches (thread token : Nat) (ticket : Ticket) (pane : PaneId) :
      Shift presenter (.attach thread) (.ticketed token ticket pane)
        (attachChannel protocol presenter.shared token ticket).1
  | ingests (thread now : Nat) (writable : Bool) (ticket : Ticket)
      (record : MediaRecord) (result : State × Except String Ingested) :
      ingestRecord protocol presenter.shared ticket.source record now =
        result →
      Shift presenter (.ingest thread now writable) (.validated ticket record)
        ((presenter.withShared result.1).settleIngest thread ticket writable
          result.2).shared
  | drops (thread : Nat) (ticket : Ticket) (event : MediaEvent) :
      Shift presenter (.send thread false) (.sending ticket event)
        (dropQueued presenter.shared ticket.source event.deliveryId).1
  | recovers (thread : Nat) (ticket : Ticket) :
      Shift presenter (.recover thread) (.recovering ticket)
        (requestKeyframe protocol presenter.shared ticket.source none
          .transportLoss)
  | closes (thread : Nat) (ticket : Ticket) :
      Shift presenter (.close thread) (.closing ticket)
        (closeChannel protocol presenter.shared ticket.source)

/-- What a step does to the shared state and to the threads. -/
inductive Advance
    (before after : Presenter) :
    PresenterEvent → Prop
  | calls (event : PresenterEvent) (state : State) :
      sessionStep protocol before.shared event = some state →
      after = before.withShared state →
      Advance before after event
  | turns (event : PresenterEvent) (thread : Nat) (old new : Phase) :
      event.thread? = some thread →
      before.phase? thread = some old →
      Shift protocol before event old after.shared →
      after.threads = (before.move thread new).threads →
      Turn protocol before after event old new →
      ((∀ token, event ≠ .presentTicket thread token) → new.ticket? = none) →
      Advance before after event
  | starts (thread connection : Nat) (channel : Option ConnectionKind) :
      thread ∉ before.threads →
      acceptConnection before.shared = some (after.shared, connection) →
      after.threads = before.threads.insert thread
        ⟨connection, channel.elim .greeting .opening⟩ →
      Advance before after (.accept thread channel)
  | stops (thread connection : Nat) :
      before.phase? thread = some .finished →
      after.shared = forgetConnection before.shared connection →
      after.threads = before.threads.erase thread →
      Advance before after (.forget thread)
  | stays (event : PresenterEvent) :
      after.shared = before.shared →
      after.threads = before.threads →
      Advance before after event
  | applies (worker : Nat) (barrier : BarrierWorker) :
      before.workers[worker]? = some ⟨barrier, .accepted⟩ →
      after.shared = (applyInnerEos protocol before.shared barrier.source
        barrier.epoch barrier.causation).1 →
      after.threads = before.threads →
      Advance before after (.applyBarrier worker)
  | answers (worker : Nat) (producer : ProducerId) (request : Nat)
      (reply : Reply) :
      after.shared = State.write
        { before.shared with
          pendingMediaBarriers := before.shared.pendingMediaBarriers.erase
            ⟨producer, request⟩ } producer reply →
      after.threads = before.threads →
      Advance before after (.answer worker)
  | expires (producer : ProducerId) (request : Nat) (state : State) :
      state = before.shared.updateProducer producer (fun runtime =>
        { runtime with waits := runtime.waits.erase request }) →
      after.shared = state ∨
        (∃ reply, after.shared = state.write producer reply) →
      after.threads = before.threads →
      Advance before after (.expireWait producer request)

/-- A thread that moves on and neither sends nor holds a ticket. -/
theorem Advance.onward
    {old new : Phase}
    (own : event.thread? = some thread)
    (there : before.phase? thread = some old)
    (shift : Shift protocol before event old after.shared)
    (moved : after.threads = (before.move thread new).threads)
    (unsent : old.sending? = none ∧ new.sending? = none ∧ new.ticket? = none)
    (serves : new.serving? = none ∨ new.serving? = old.serving?) :
    Advance protocol before after event :=
  .turns event thread old new own there shift moved
    (.onward event old new unsent.1 unsent.2.1 serves) fun _ => unsent.2.2

theorem advance_of_controlStep
    (stepped : controlStep protocol before event = some after) :
    Advance protocol before after event := by
  cases event
  case hello thread hello =>
    simp only [controlStep] at stepped
    split at stepped
    · rename_i greeting _
      split at stepped
      · cases stepped
        exact .onward protocol rfl greeting (.idle _ _) rfl ⟨rfl, rfl, rfl⟩
          (.inl rfl)
      · split at stepped <;> cases stepped
        · exact .onward protocol rfl greeting (.idle _ _) rfl ⟨rfl, rfl, rfl⟩
            (.inl rfl)
        · exact .onward protocol rfl greeting (.idle _ _) rfl ⟨rfl, rfl, rfl⟩
            (.inl rfl)
    · rename_i greeting _
      cases stepped
      exact .onward protocol rfl greeting (.idle _ _) rfl ⟨rfl, rfl, rfl⟩
        (.inl rfl)
    · cases stepped
  case markControl thread =>
    simp only [controlStep] at stepped
    split at stepped
    · rename_i authenticated
      have there := phase_of_find? authenticated
      split at stepped
      · cases stepped
        exact .onward protocol rfl there (.idle _ _) rfl ⟨rfl, rfl, rfl⟩
          (.inl rfl)
      · split at stepped <;> cases stepped
        · exact .onward protocol rfl there (.marks _ _ _ _) rfl
            ⟨rfl, rfl, rfl⟩ (.inl rfl)
        · exact .onward protocol rfl there (.marks _ _ _ _) rfl
            ⟨rfl, rfl, rfl⟩ (.inl rfl)
    · cases stepped
  case admission thread tag spawns =>
    simp only [controlStep] at stepped
    split at stepped
    · rename_i marked
      split at stepped
      · cases stepped
        exact .onward protocol rfl marked (.admits _ _ _ _ _ _) rfl
          ⟨rfl, rfl, rfl⟩ (.inl rfl)
      · rename_i producer admitted
        obtain ⟨isNext, counted, registered⟩ :=
          admitProducer_ok protocol admitted
        cases stepped
        refine .turns _ thread _ (.welcoming producer) rfl marked
          (.admits _ _ _ _ _ _) rfl ?_ fun _ => rfl
        rw [← counted] at registered ⊢
        exact .admitted thread tag spawns _ rfl (counted.trans isNext)
          registered
    · cases stepped
  case welcome thread writable =>
    simp only [controlStep] at stepped
    split at stepped
    · rename_i welcoming
      cases stepped
      cases writable
      · exact .onward protocol rfl welcoming (.idle _ _) rfl ⟨rfl, rfl, rfl⟩
          (.inl rfl)
      · exact .onward protocol rfl welcoming (.idle _ _) rfl ⟨rfl, rfl, rfl⟩
          (.inr rfl)
    · cases stepped
  case receiveControl thread record =>
    simp only [controlStep] at stepped
    split at stepped
    · rename_i reading
      split at stepped <;> cases stepped
      · exact .onward protocol rfl reading (.idle _ _) rfl ⟨rfl, rfl, rfl⟩
          (.inr rfl)
      · exact .onward protocol rfl reading (.idle _ _) rfl ⟨rfl, rfl, rfl⟩
          (.inr rfl)
    · cases stepped
  case hangUp thread =>
    simp only [controlStep] at stepped
    split at stepped
    · rename_i reading
      cases stepped
      exact .onward protocol rfl reading (.idle _ _) rfl ⟨rfl, rfl, rfl⟩
        (.inr rfl)
    · cases stepped
  case run thread circumstance writable =>
    simp only [controlStep] at stepped
    split at stepped
    · rename_i producer task busy
      cases stepped
      have goes : ∀ progress : Progress,
          (progress.phase producer).sending? = none ∧
            (progress.phase producer).ticket? = none ∧
            (progress.phase producer).serving? = some producer := by
        intro progress
        unfold Progress.phase
        split <;> exact ⟨rfl, rfl, rfl⟩
      refine .onward protocol rfl busy ?_ (Presenter.threads_proceed _ _ _ _)
        ⟨rfl, (goes _).1, (goes _).2.1⟩ (.inr (goes _).2.2)
      rw [Presenter.shared_proceed]
      exact .runs _ _ _ _ _
    · cases stepped
  case refuse thread writable =>
    simp only [controlStep] at stepped
    split at stepped
    · rename_i refusing
      cases stepped
      cases writable
      · exact .onward protocol rfl refusing (.idle _ _) rfl ⟨rfl, rfl, rfl⟩
          (.inl rfl)
      · exact .onward protocol rfl refusing (.idle _ _) rfl ⟨rfl, rfl, rfl⟩
          (.inr rfl)
    · cases stepped
  case leave thread =>
    simp only [controlStep] at stepped
    split at stepped
    · rename_i leaving
      cases stepped
      exact .onward protocol rfl leaving (.leaves _ _) rfl ⟨rfl, rfl, rfl⟩
        (.inl rfl)
    · cases stepped
  all_goals cases stepped

theorem advance_of_channelStep
    (stepped : channelStep protocol before event = some after) :
    Advance protocol before after event := by
  cases event
  case presentTicket thread token =>
    simp only [channelStep] at stepped
    split at stepped
    · rename_i opening
      split at stepped
      · cases stepped
        exact .onward protocol rfl opening (.takes _ _ _) rfl ⟨rfl, rfl, rfl⟩
          (.inl rfl)
      · split at stepped <;> cases stepped
        · exact .onward protocol rfl opening (.takes _ _ _) rfl
            ⟨rfl, rfl, rfl⟩ (.inl rfl)
        · exact .turns _ thread _ _ rfl opening (.takes _ _ _) rfl
            (.onward _ _ _ rfl rfl (.inl rfl))
            fun other => absurd rfl (other token)
    · cases stepped
  case attach thread =>
    simp only [channelStep] at stepped
    split at stepped
    · rename_i ticketed
      split at stepped <;> cases stepped
      · exact .onward protocol rfl ticketed (.attaches _ _ _ _) rfl
          ⟨rfl, rfl, rfl⟩ (.inl rfl)
      · exact .onward protocol rfl ticketed (.attaches _ _ _ _) rfl
          ⟨rfl, rfl, rfl⟩ (.inl rfl)
    · cases stepped
  case markChannel thread =>
    simp only [channelStep] at stepped
    split at stepped
    · rename_i attached
      have there := phase_of_find? attached
      split at stepped <;> cases stepped
      · exact .onward protocol rfl there (.idle _ _) rfl ⟨rfl, rfl, rfl⟩
          (.inl rfl)
      · exact .onward protocol rfl there (.marks _ _ _ _) rfl ⟨rfl, rfl, rfl⟩
          (.inl rfl)
    · cases stepped
  case receiveMedia thread object record =>
    simp only [channelStep] at stepped
    split at stepped
    · rename_i receiving
      split at stepped
      · cases stepped
        exact .onward protocol rfl receiving (.idle _ _) rfl ⟨rfl, rfl, rfl⟩
          (.inl rfl)
      · split at stepped <;> cases stepped
        · exact .onward protocol rfl receiving (.idle _ _) rfl ⟨rfl, rfl, rfl⟩
            (.inl rfl)
        · exact .onward protocol rfl receiving (.idle _ _) rfl ⟨rfl, rfl, rfl⟩
            (.inl rfl)
    · cases stepped
  case endChannel thread =>
    simp only [channelStep] at stepped
    split at stepped
    · rename_i receiving
      cases stepped
      exact .onward protocol rfl receiving (.idle _ _) rfl ⟨rfl, rfl, rfl⟩
        (.inl rfl)
    · cases stepped
  case ingest thread now writable =>
    simp only [channelStep] at stepped
    split at stepped
    · rename_i ticket record validated
      cases stepped
      exact .turns _ thread _ _ rfl validated (.ingests _ _ _ _ _ _ rfl)
        (Presenter.threads_settleIngest _ _ _ _ _)
        (.ingested thread now writable ticket record) fun _ => by
          unfold settledPhase
          split
          · rfl
          · split <;> rfl
          · rfl
          · split_ifs <;> rfl
    · cases stepped
  case send thread taken =>
    simp only [channelStep] at stepped
    split at stepped
    · rename_i ticket sent sending
      cases taken
      · cases stepped
        refine .turns _ thread _ _ rfl sending (.drops _ _ _) rfl
          (.sent thread _ ticket sent _ ?_ ?_) fun _ => ?_
        · split <;> rfl
        · split <;> rfl
        · split <;> rfl
      · cases stepped
        exact .turns _ thread _ _ rfl sending (.idle _ _) rfl
          (.sent thread _ ticket sent _ rfl rfl) fun _ => rfl
    · cases stepped
  case recover thread =>
    simp only [channelStep] at stepped
    split at stepped
    · rename_i recovering
      cases stepped
      exact .onward protocol rfl recovering (.recovers _ _) rfl
        ⟨rfl, rfl, rfl⟩ (.inl rfl)
    · cases stepped
  case close thread =>
    simp only [channelStep] at stepped
    split at stepped
    · rename_i closing
      cases stepped
      exact .onward protocol rfl closing (.closes _ _) rfl ⟨rfl, rfl, rfl⟩
        (.inl rfl)
    · cases stepped
  all_goals cases stepped

theorem advance_of_serviceStep
    (stepped : serviceStep protocol before event = some after) :
    Advance protocol before after event := by
  cases event
  case accept thread channel =>
    simp only [serviceStep] at stepped
    split at stepped
    · cases stepped
    · rename_i unused
      split at stepped <;> cases stepped
      · exact .stays _ rfl rfl
      · rename_i accepted
        refine .starts thread _ channel ?_ accepted rfl
        simpa [Presenter.fresh] using unused
  case forget thread =>
    simp only [serviceStep] at stepped
    split at stepped
    · rename_i finished
      cases stepped
      exact .stops thread _ (phase_of_find? finished) rfl rfl
    · cases stepped
  case look worker =>
    simp only [serviceStep] at stepped
    split at stepped
    · split at stepped <;> cases stepped <;> exact .stays _ rfl rfl
    · cases stepped
  case expireBarrier worker =>
    simp only [serviceStep] at stepped
    split at stepped <;> cases stepped
    exact .stays _ rfl rfl
  case applyBarrier worker =>
    simp only [serviceStep] at stepped
    split at stepped
    · rename_i accepted
      cases stepped
      exact .applies worker _ accepted rfl rfl
    · cases stepped
  case answer worker =>
    simp only [serviceStep] at stepped
    split at stepped <;> cases stepped
    exact .answers worker _ _ _ rfl rfl
  case expireWait producer request =>
    simp only [serviceStep] at stepped
    split at stepped <;> cases stepped
    refine .expires producer request _ rfl ?_ rfl
    dsimp only
    split
    · exact .inl rfl
    · exact .inr ⟨_, rfl⟩
  all_goals cases stepped

/-- Every step advances the presenter. -/
theorem advance_of_step
    (stepped : presenterStep protocol before event = some after) :
    Advance protocol before after event := by
  unfold presenterStep at stepped
  rcases Option.or_eq_some_iff.mp stepped with earlier | ⟨-, service⟩
  · rcases Option.or_eq_some_iff.mp earlier with earliest | ⟨-, channel⟩
    · rcases Option.or_eq_some_iff.mp earliest with called | ⟨-, control⟩
      · obtain ⟨state, stepsTo, rfl⟩ := Option.map_eq_some_iff.mp called
        exact .calls event state stepsTo rfl
      · exact advance_of_controlStep protocol control
    · exact advance_of_channelStep protocol channel
  · exact advance_of_serviceStep protocol service

/-- A step turns at most its own thread. -/
theorem threads_presenterStep
    (stepped : presenterStep protocol before event = some after) :
    Threads protocol before after event := by
  cases advance_of_step protocol stepped with
  | calls _ state _ same => exact .still _ (same ▸ rfl)
  | turns _ thread old new own there _ moved turn _ =>
      exact .turn _ thread old new own there moved turn
  | starts thread connection channel unused _ inserted =>
      exact .start thread connection channel unused inserted
  | stops thread _ finished _ erased => exact .stop thread finished erased
  | stays _ _ same | applies _ _ _ _ same | answers _ _ _ _ _ same
  | expires _ _ _ _ _ same => exact .still _ same

end Media
end Vvmux
