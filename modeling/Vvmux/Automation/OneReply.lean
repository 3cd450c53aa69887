import Vvmux.Automation.Replies

/-!
# What every run of requests comes to

In every reachable state each request has its place, what was answered was
answered once under its own ID, and the IDs in flight for a client are those
that its waiters and its pending work hold.
-/

namespace Vvmux

open Library

namespace Automation

namespace AutomationActor

/-- The IDs of the requests for which a client's waiters wait. -/
def waiterIds (actor : AutomationActor) (clientId : Nat) : List Nat :=
  idsOf clientId (actor.automationWaiters.map Waiter.reply)

/-- The IDs of the requests in a client's pending work. -/
def pendingIds (actor : AutomationActor) (clientId : Nat) : Finset Nat :=
  (actor.pendingActorWork.filter fun work => work.1 = clientId).image Prod.snd

/-- Every request is in one place, under its own client and ID, and the three
collections agree for every connected client. -/
structure OneReply (actor : AutomationActor) : Prop where
  once : ∀ request < actor.arrivals.length,
    occurrences (actor.answered.map AutomationResponseJob.target) request +
      occurrences actor.dropped request +
      occurrences (actor.automationWaiters.map Waiter.reply) request +
      occurrences actor.workers request +
      occurrences actor.discarded request = 1
  answered : ∀ job ∈ actor.answered,
    actor.arrivals[job.target.request]? =
      some (job.target.clientId, job.response.id)
  waiting : ∀ waiter ∈ actor.automationWaiters,
    actor.arrivals[waiter.reply.request]? =
      some (waiter.reply.clientId, waiter.reply.requestId)
  working : ∀ target ∈ actor.workers,
    actor.arrivals[target.request]? = some (target.clientId, target.requestId)
  dropped : ∀ target ∈ actor.dropped,
    actor.arrivals[target.request]? =
      some (target.clientId, target.requestId) ∧
    target.clientId ∈ actor.cancelled
  discarded : ∀ target ∈ actor.discarded,
    actor.arrivals[target.request]? =
      some (target.clientId, target.requestId) ∧
    target.clientId ∉ actor.connected
  disjoint : ∀ clientId ∈ actor.connected,
    (actor.waiterIds clientId).Nodup ∧
      Disjoint (actor.waiterIds clientId).toFinset (actor.pendingIds clientId)
  union : ∀ clientId ∈ actor.connected,
    actor.inflight clientId =
      (actor.waiterIds clientId).toFinset ∪ actor.pendingIds clientId
  pending : ∀ clientId ∈ actor.connected,
    (idsOf clientId actor.workers).Nodup ∧
      actor.pendingIds clientId = (idsOf clientId actor.workers).toFinset

variable {actor : AutomationActor}

theorem mem_pendingIds
    {clientId id : Nat} :
    id ∈ actor.pendingIds clientId ↔
      (clientId, id) ∈ actor.pendingActorWork := by
  unfold pendingIds
  rw [Finset.mem_image]
  constructor
  · rintro ⟨⟨client, request⟩, here, same⟩
    obtain ⟨listed, own⟩ := Finset.mem_filter.mp here
    rw [← own, ← same]
    exact listed
  · intro listed
    exact ⟨(clientId, id), Finset.mem_filter.mpr ⟨listed, rfl⟩, rfl⟩

theorem occurrences_append
    (left right : List ReplyTarget)
    (request : Nat) :
    occurrences (left ++ right) request =
      occurrences left request + occurrences right request :=
  List.countP_append

theorem Kept.oneReply (kept : Kept actor []) : OneReply actor := by
  have known := kept.accounted.known
  have books := kept.books
  simp only [List.nil_append, targets, List.mem_append] at known
  have split : ∀ clientId, idsOf clientId ([] ++ actor.held) =
      actor.waiterIds clientId ++ idsOf clientId actor.workers :=
    fun clientId => idsOf_append clientId
      (actor.automationWaiters.map Waiter.reply) actor.workers
  have pending : ∀ clientId ∈ actor.connected,
      actor.pendingIds clientId =
        (idsOf clientId actor.workers).toFinset := by
    intro clientId connected
    ext id
    rw [mem_pendingIds, List.mem_toFinset]
    exact books.pending clientId connected id
  have nodup : ∀ clientId ∈ actor.connected,
      (actor.waiterIds clientId ++ idsOf clientId actor.workers).Nodup :=
    fun clientId connected =>
      split clientId ▸ books.distinct clientId connected
  exact
    { once := by
        intro request arrived
        have once := kept.accounted.once request
        rw [if_pos arrived] at once
        simpa only [List.nil_append, targets, occurrences_append] using once
      answered := by
        intro job listed
        rw [kept.accounted.labelled job listed]
        exact known _ (.inl (.inl (.inl (.inl
          (List.mem_map_of_mem listed)))))
      waiting := fun waiter listed => known _
        (.inl (.inl (.inr (List.mem_map_of_mem listed))))
      working := fun target listed => known _ (.inl (.inr listed))
      dropped := fun target listed =>
        ⟨known _ (.inl (.inl (.inl (.inr listed)))),
          kept.accounted.cancels target listed⟩
      discarded := fun target listed =>
        ⟨known _ (.inr listed), books.left target listed⟩
      disjoint := by
        intro clientId connected
        have parts := List.nodup_append'.mp (nodup clientId connected)
        rw [pending clientId connected]
        exact ⟨parts.1, List.disjoint_toFinset_iff_disjoint.mpr parts.2.2⟩
      union := by
        intro clientId connected
        ext id
        rw [books.booked clientId connected id, split, List.mem_append,
          Finset.mem_union, pending clientId connected, List.mem_toFinset,
          List.mem_toFinset]
      pending := fun clientId connected =>
        ⟨(nodup clientId connected).of_append_right,
          pending clientId connected⟩ }

/-- What was answered is nowhere else. -/
theorem Accounted.apart
    (accounted : Accounted actor [])
    {target : ReplyTarget}
    (answered : target ∈ actor.answered.map AutomationResponseJob.target)
    (elsewhere : target ∈ actor.dropped ++
      (actor.automationWaiters.map Waiter.reply ++
        (actor.workers ++ actor.discarded))) :
    False := by
  have once := accounted.once target.request
  have counted : occurrences ([] ++ actor.targets) target.request =
      occurrences (actor.answered.map AutomationResponseJob.target)
        target.request +
      occurrences (actor.dropped ++ (actor.automationWaiters.map Waiter.reply ++
        (actor.workers ++ actor.discarded))) target.request := by
    rw [← occurrences_append]
    simp only [targets, List.nil_append, List.append_assoc]
  have positive : ∀ targets : List ReplyTarget, target ∈ targets →
      0 < occurrences targets target.request := fun targets here =>
    List.countP_pos_iff.mpr ⟨target, here, by simp⟩
  have one := positive _ answered
  have other := positive _ elsewhere
  rw [counted] at once
  split_ifs at once <;> omega

/-- A request that has just been answered was asked by a client that is still
there, or its worker has just ended. -/
theorem answered_of_onward
    {before after : AutomationActor}
    {event : AutomationEvent}
    (keptBefore : Kept before [])
    (keptAfter : Kept after [])
    (onward : Onward before event after)
    {job : AutomationResponseJob}
    (listed : job ∈ after.answered) :
    job.target ∈ before.answered.map AutomationResponseJob.target ∨
      job.target.clientId ∈ before.connected ∨
      ∃ worker result, event = .inputComplete worker result ∧
        before.workers[worker]? = some job.target := by
  have answered : job.target ∈
      after.answered.map AutomationResponseJob.target :=
    List.mem_map_of_mem listed
  have known := keptAfter.accounted.known job.target (by
    simp only [targets, List.nil_append, List.mem_append]
    exact .inl (.inl (.inl (.inl answered))))
  rcases onward.asked _ _ _ known with old | present
  · -- It was somewhere before, and what is elsewhere does not move.
    have once := keptBefore.accounted.once job.target.request
    obtain ⟨inside, -⟩ := List.getElem?_eq_some_iff.mp old
    rw [if_pos inside] at once
    obtain ⟨target, here, same⟩ := List.countP_pos_iff.mp
      (show 0 < occurrences _ _ from once ▸ Nat.one_pos)
    have there := keptBefore.accounted.known target here
    rw [beq_iff_eq.mp same, old] at there
    injection there with there
    injection there with client id
    have own : target = job.target := by
      rcases target with ⟨clientId, requestId, request⟩
      obtain ⟨⟨clientId', requestId', request'⟩, response⟩ := job
      dsimp only at client id
      have number : request = request' := beq_iff_eq.mp same
      rw [client, id, number]
    rw [own] at here
    simp only [targets, List.nil_append, List.mem_append] at here
    rcases here with (((replied | dropped) | waiting) | working) | discarded
    · exact .inl replied
    · exact (keptAfter.accounted.apart answered (List.mem_append_left _
        (onward.dropped.subset dropped))).elim
    · exact .inr (.inl (keptBefore.books.asking _ waiting))
    · rcases onward.workers _ working with still | ended
      · exact (keptAfter.accounted.apart answered (List.mem_append_right _
          (List.mem_append_right _ (List.mem_append_left _ still)))).elim
      · exact .inr (.inr ended)
    · exact (keptAfter.accounted.apart answered (List.mem_append_right _
        (List.mem_append_right _ (List.mem_append_right _
          (onward.discarded.subset discarded))))).elim
  · exact .inr (.inl present)

/-- What an event may answer, drop or forget. -/
structure AnswersOnce
    (before : AutomationActor)
    (event : AutomationEvent)
    (after : AutomationActor) : Prop where
  /-- What was answered, dropped or discarded stays so. -/
  settled : before.answered <:+ after.answered ∧
    before.dropped <:+ after.dropped ∧ before.discarded <:+ after.discarded
  /-- A client that has left is answered by the completion of its own worker
  only. -/
  answers : ∀ job ∈ after.answered,
    job.target ∈ before.answered.map AutomationResponseJob.target ∨
      job.target.clientId ∈ before.connected ∨
      ∃ worker result, event = .inputComplete worker result ∧
        before.workers[worker]? = some job.target
  /-- A response is dropped only when the queue is full. -/
  drops : after.dropped = before.dropped ∨
    automationResponseQueue ≤ after.responses.length

end AutomationActor

open AutomationActor

/-- Whatever the order of events, every request has one reply unless its
client leaves or the queue of responses is full; what is held ends at the next
check after its deadline or with its worker; and no request aborts the
actor. -/
theorem replies_once
    {unicode : Terminal.UnicodeWidth}
    {keys : String → Option String}
    {actor : AutomationActor}
    (reached : (automationMachine unicode keys).Reachable
      (fun _ _ => True) actor) :
    actor.OneReply ∧
    (∀ clientId ∈ actor.connected, ∀ outside now request,
      (automationStep unicode keys actor
        (.request clientId request outside now)).isSome) ∧
    (∀ event after, automationStep unicode keys actor event = some after →
      AnswersOnce actor event after) ∧
    (∀ outside now, ∀ waiter ∈
      (actor.checkAutomationWaiters outside now).automationWaiters,
      waiter ∈ actor.automationWaiters ∧ now < waiter.deadline) ∧
    ∀ worker, worker < actor.workers.length → ∀ result,
      (automationStep unicode keys actor
        (.inputComplete worker result)).isSome := by
  have kept := kept_reachable reached
  refine ⟨kept.oneReply, ?_, ?_, ?_, ?_⟩
  · intro clientId connected outside now request
    simp only [automationStep]
    rw [if_pos connected]
    exact handleAutomation_isSome actor outside now clientId request
  · intro event after stepped
    obtain ⟨keeps, onward⟩ := kept_automationStep stepped
    exact
      { settled := ⟨onward.answered, onward.dropped, onward.discarded⟩
        answers := fun job listed =>
          answered_of_onward kept (keeps kept) onward listed
        drops := onward.room }
  · intro outside now waiter here
    exact checkAutomationWaiters_waiters here
  · intro worker inside result
    simp only [automationStep]
    rw [Option.isSome_map, List.getElem?_eq_getElem inside]
    rfl

/-! ## Nine requests -/

/-- Nothing beside the requests. -/
def nothingOutside :
    Outside where
  focused := none
  attached := none
  sessionSequence := 0
  relayout := id
  split := .error paneNotFound
  focus := .ok ()
  describes := fun _ => false
  mediaStatus := fun _ =>
    { virtualProjectionRevision := 0
      outerProjectionRevision := 0 }
  mediaTrace := fun _ _ _ _ =>
    { oldestSequence := 0
      currentSequence := 0
      gap := none
      events := [] }
  encodeKey := fun _ _ _ => .ok []
  sanitizePaste := fun _ => []
  compile := fun _ => .error "no expressions"
  queueInput := .ok ()
  spawnWorker := .ok ()

/-- A request for capabilities. -/
def capabilitiesRequest (id : Nat) : AutomationRequest where
  id := id
  paneId := none
  allowFocused := false
  method := .capabilities

/-- The state after some events. -/
def followAutomation (events : List AutomationEvent) : Option AutomationActor :=
  Machine.follow (automationStep Terminal.latinAndHan fun _ => none)
    (fun _ _ => true) .start events

theorem reachable_followAutomation
    {events : List AutomationEvent}
    {actor : AutomationActor}
    (followed : followAutomation events = some actor) :
    (automationMachine Terminal.latinAndHan fun _ => none).Reachable
      (fun _ _ => True) actor :=
  Machine.Reachable.follow (fun _ _ _ stepped => stepped)
    (fun _ _ _ => trivial) (.initial rfl) followed

/-- A client asks for the capabilities. -/
theorem replies_once_capabilities :
    ∃ actor, followAutomation
        [.connect, .request 0 (capabilitiesRequest 7) nothingOutside 0] =
          some actor ∧
      actor.answered.map (fun job => job.response.id) = [7] ∧
      actor.OneReply := by
  have seen : (followAutomation
      [.connect, .request 0 (capabilitiesRequest 7) nothingOutside 0]).map
        (fun actor => actor.answered.map fun job => job.response.id) =
      some [7] := by
    decide +kernel
  obtain ⟨actor, followed, answered⟩ := Option.map_eq_some_iff.mp seen
  exact ⟨actor, followed, answered,
    (replies_once (reachable_followAutomation followed)).1⟩

/-- What was dropped is not answered later. -/
theorem dropped_forever
    {unicode : Terminal.UnicodeWidth}
    {keys : String → Option String}
    {actor later : AutomationActor}
    (reached : (automationMachine unicode keys).Reachable
      (fun _ _ => True) actor)
    {target : ReplyTarget}
    (dropped : target ∈ actor.dropped)
    (since : ((automationMachine unicode keys).startingAt actor).Reachable
      (fun _ _ => True) later) :
    occurrences (later.answered.map AutomationResponseJob.target)
      target.request = 0 := by
  have preserved :
      ((automationMachine unicode keys).startingAt actor).Preserved
        (fun _ _ => True) fun state => Kept state [] ∧
          target ∈ state.dropped := by
    intro before event after holds _ stepped
    obtain ⟨keeps, onward⟩ := kept_automationStep stepped
    exact ⟨keeps holds.1, onward.dropped.subset holds.2⟩
  obtain ⟨kept, here⟩ := since.invariant (by
    intro start initial
    rw [show start = actor from initial]
    exact ⟨kept_reachable reached, dropped⟩) preserved
  have known := (kept.oneReply.dropped target here).1
  obtain ⟨inside, -⟩ := List.getElem?_eq_some_iff.mp known
  have once := kept.oneReply.once target.request inside
  have counted : 0 < occurrences later.dropped target.request :=
    List.countP_pos_iff.mpr ⟨target, here, by simp⟩
  omega

/-- Nine requests come before the first response is written. -/
theorem ninth_reply_dropped :
    ∃ actor, (automationMachine Terminal.latinAndHan fun _ => none).Reachable
        (fun _ _ => True) actor ∧
      0 ∈ actor.connected ∧
      actor.arrivals = (List.range 9).map (fun id => (0, id)) ∧
      actor.automationWaiters = [] ∧
      actor.workers = [] ∧
      ∀ later,
        ((automationMachine Terminal.latinAndHan fun _ => none).startingAt
          actor).Reachable (fun _ _ => True) later →
        occurrences (later.answered.map AutomationResponseJob.target) 8 =
          0 := by
  have seen : (followAutomation (.connect :: (List.range 9).map fun id =>
      .request 0 (capabilitiesRequest id) nothingOutside 0)).map
        (fun actor => (decide (0 ∈ actor.connected), actor.arrivals,
          actor.automationWaiters.length, actor.workers.length,
          actor.dropped)) =
      some (true, (List.range 9).map (fun id => (0, id)), 0, 0,
        [{ clientId := 0, requestId := 8, request := 8 }]) := by
    decide +kernel
  obtain ⟨actor, followed, holds⟩ := Option.map_eq_some_iff.mp seen
  obtain ⟨present, rest⟩ := Prod.mk.inj holds
  obtain ⟨arrivals, rest⟩ := Prod.mk.inj rest
  obtain ⟨waiters, rest⟩ := Prod.mk.inj rest
  obtain ⟨workers, dropped⟩ := Prod.mk.inj rest
  have reached := reachable_followAutomation followed
  refine ⟨actor, reached, of_decide_eq_true present, arrivals,
    List.eq_nil_of_length_eq_zero waiters,
    List.eq_nil_of_length_eq_zero workers, fun later since => ?_⟩
  have listed : { clientId := 0, requestId := 8, request := 8 } ∈
      actor.dropped := by
    rw [dropped]
    exact List.mem_cons_self
  exact dropped_forever reached listed since

end Automation
end Vvmux
