import Mathlib.Algebra.Order.Ring.Nat
import Mathlib.Data.List.Basic
import Vvmux.Bridge.Dispatcher

/-!
# Replies reach their own request

The pending requests, the abandoned ones and the replies that wait to be taken
are kept apart in every run.  The time of the oldest pending request needs
more: it is right as long as no removal uncovers a younger oldest request, and
no failed write removes the last one.
-/

namespace Vvmux

open Library

namespace Bridge

/-- When the oldest of these requests was issued. -/
def oldestIssued (requests : List Request) : Option Nat :=
  (requests.map Request.issued).min?

variable {requests : List Request}

theorem oldestIssued_eq_some_iff
    {time : Nat} :
    oldestIssued requests = some time ↔
      (∃ request ∈ requests, request.issued = time) ∧
        ∀ request ∈ requests, time ≤ request.issued := by
  simp [oldestIssued, List.min?_eq_some_iff]

theorem oldestIssued_eq_none_iff
    {requests : List Request} :
    oldestIssued requests = none ↔ requests = [] := by
  simp [oldestIssued]

/-- A request that is not older than the others is the oldest only when there
are no others. -/
theorem oldestIssued_concat
    {last : Request}
    (younger : ∀ request ∈ requests, request.issued ≤ last.issued) :
    oldestIssued (requests ++ [last]) =
      some ((oldestIssued requests).getD last.issued) := by
  rw [oldestIssued_eq_some_iff]
  cases oldest : oldestIssued requests with
  | none =>
      rw [oldestIssued_eq_none_iff] at oldest
      simp [oldest]
  | some time =>
      obtain ⟨⟨first, inside, same⟩, least⟩ := oldestIssued_eq_some_iff.mp oldest
      refine ⟨⟨first, List.mem_append_left _ inside, same⟩, ?_⟩
      intro request listed
      rcases List.mem_append.mp listed with old | new
      · exact least request old
      · rw [List.mem_singleton.mp new]
        exact (least first inside).trans (younger first inside)

namespace ControlState

variable {control : ControlState} {issued : List Nat}

theorem isPending_iff
    {id : Nat} :
    control.isPending id = true ↔
      ∃ request ∈ control.pendingRequests, request.id = id := by
  simp [isPending]

theorem mem_pendingWithout
    {id : Nat}
    {request : Request} :
    request ∈ control.pendingWithout id ↔
      request ∈ control.pendingRequests ∧ request.id ≠ id := by
  simp [pendingWithout]

/-- The three collections are disjoint, hold only requests that were issued,
and every reply is kept under its own request. -/
structure Separate (control : ControlState) (issued : List Nat) : Prop where
  pendingIssued : ∀ request ∈ control.pendingRequests, request.id ∈ issued
  abandonedIssued : ∀ id ∈ control.abandonedRequests, id ∈ issued
  repliesIssued : ∀ entry ∈ control.replies, entry.1 ∈ issued
  pendingAbandoned : ∀ request ∈ control.pendingRequests,
    request.id ∉ control.abandonedRequests
  pendingReplies : ∀ request ∈ control.pendingRequests,
    ∀ entry ∈ control.replies, entry.1 ≠ request.id
  abandonedReplies : ∀ id ∈ control.abandonedRequests,
    ∀ entry ∈ control.replies, entry.1 ≠ id
  keyed : ∀ entry ∈ control.replies, entry.2.requestId = entry.1

/-- The collections may shrink. -/
theorem Separate.shrink
    {before after : ControlState}
    (separate : before.Separate issued)
    (pending : after.pendingRequests ⊆ before.pendingRequests)
    (abandoned : after.abandonedRequests ⊆ before.abandonedRequests)
    (replies : after.replies ⊆ before.replies) : after.Separate issued where
  pendingIssued request inside := separate.pendingIssued request (pending inside)
  abandonedIssued id inside := separate.abandonedIssued id (abandoned inside)
  repliesIssued entry inside := separate.repliesIssued entry (replies inside)
  pendingAbandoned request inside given :=
    separate.pendingAbandoned request (pending inside) (abandoned given)
  pendingReplies request inside entry given :=
    separate.pendingReplies request (pending inside) entry (replies given)
  abandonedReplies id inside entry given :=
    separate.abandonedReplies id (abandoned inside) entry (replies given)
  keyed entry inside := separate.keyed entry (replies inside)

theorem pendingWithout_subset
    (control : ControlState)
    (id : Nat) : control.pendingWithout id ⊆ control.pendingRequests := by
  intro request inside
  exact (mem_pendingWithout.mp inside).1

theorem Separate.removePending
    (separate : control.Separate issued)
    (id : Nat) : (control.removePending id).Separate issued :=
  separate.shrink (control.pendingWithout_subset id)
    (List.Subset.refl _) (List.Subset.refl _)

/-- A fresh request is entered. -/
theorem Separate.enterRequest
    {control entered : ControlState}
    {now id : Nat}
    (separate : control.Separate issued)
    (fresh : id ∉ issued)
    (accepted : control.enterRequest now id = some entered) :
    entered.Separate (id :: issued) := by
  unfold ControlState.enterRequest at accepted
  split at accepted
  · cases accepted
  cases accepted
  have unlike : ∀ other ∈ issued, other ≠ id := by
    intro other inside same
    exact fresh (same ▸ inside)
  exact
    { pendingIssued := by
        intro request inside
        rcases List.mem_append.mp inside with old | new
        · exact List.mem_cons_of_mem _ (separate.pendingIssued request old)
        · rw [List.mem_singleton.mp new]
          exact List.mem_cons_self
      abandonedIssued := fun other inside =>
        List.mem_cons_of_mem _ (separate.abandonedIssued other inside)
      repliesIssued := fun entry inside =>
        List.mem_cons_of_mem _ (separate.repliesIssued entry inside)
      pendingAbandoned := by
        intro request inside given
        rcases List.mem_append.mp inside with old | new
        · exact separate.pendingAbandoned request old given
        · rw [List.mem_singleton.mp new] at given
          exact unlike id (separate.abandonedIssued id given) rfl
      pendingReplies := by
        intro request inside entry given
        rcases List.mem_append.mp inside with old | new
        · exact separate.pendingReplies request old entry given
        · rw [List.mem_singleton.mp new]
          exact unlike entry.1 (separate.repliesIssued entry given)
      abandonedReplies := separate.abandonedReplies
      keyed := separate.keyed }

/-- A reply is kept for a request that is neither pending nor abandoned. -/
theorem Separate.insertReply
    {reply : Reply}
    (separate : control.Separate issued)
    (known : reply.requestId ∈ issued)
    (answered : ∀ request ∈ control.pendingRequests,
      request.id ≠ reply.requestId)
    (expected : reply.requestId ∉ control.abandonedRequests) :
    (control.insertReply reply).Separate issued := by
  have entries : ∀ entry ∈ (control.insertReply reply).replies,
      entry ∈ control.replies ∨ entry = (reply.requestId, reply) := by
    intro entry inside
    rcases List.mem_append.mp inside with old | new
    · exact Or.inl (List.mem_filter.mp old).1
    · exact Or.inr (List.mem_singleton.mp new)
  exact
    { pendingIssued := separate.pendingIssued
      abandonedIssued := separate.abandonedIssued
      repliesIssued := by
        intro entry inside
        rcases entries entry inside with old | rfl
        · exact separate.repliesIssued entry old
        · exact known
      pendingAbandoned := separate.pendingAbandoned
      pendingReplies := by
        intro request inside entry given
        rcases entries entry given with old | rfl
        · exact separate.pendingReplies request inside entry old
        · exact (answered request inside).symm
      abandonedReplies := by
        intro id inside entry given
        rcases entries entry given with old | rfl
        · exact separate.abandonedReplies id inside entry old
        · intro same
          cases same
          exact expected inside
      keyed := by
        intro entry inside
        rcases entries entry inside with old | rfl
        · exact separate.keyed entry old
        · rfl }

theorem Separate.routeReply
    (separate : control.Separate issued)
    (reply : Reply) : (control.routeReply reply).Separate issued := by
  unfold ControlState.routeReply
  split
  · exact separate
  split
  · exact separate.shrink (List.Subset.refl _)
      (fun id inside => (List.mem_filter.mp inside).1) (List.Subset.refl _)
  rename_i expected
  split
  · rename_i pending
    obtain ⟨request, inside, same⟩ := isPending_iff.mp pending
    have removed := separate.removePending reply.requestId
    have inserted := removed.insertReply
      (same ▸ separate.pendingIssued request inside)
      (fun other given => (mem_pendingWithout.mp given).2) expected
    dsimp only
    split
    · exact removed.shrink (List.Subset.refl _) (List.Subset.refl _)
        (List.Subset.refl _)
    · split
      · exact inserted.shrink (List.Subset.refl _) (List.Subset.refl _)
          (List.Subset.refl _)
      · exact inserted
  · exact separate.shrink (List.Subset.refl _) (List.Subset.refl _)
      (List.Subset.refl _)

theorem Separate.route
    (separate : control.Separate issued)
    (record : Inbound) : (control.route record).Separate issued := by
  have closed : ∀ reason, (control.close reason).Separate issued :=
    fun reason => separate.shrink (List.Subset.refl _) (List.Subset.refl _)
      (List.Subset.refl _)
  cases record with
  | ping answered =>
      cases answered with
      | true => exact separate
      | false => exact closed _
  | pong objectId requestId =>
      unfold ControlState.route
      dsimp only
      split
      · exact closed _
      · exact separate.shrink (List.Subset.refl _) (List.Subset.refl _)
          (List.Subset.refl _)
  | reply reply => exact separate.routeReply reply
  | other taken =>
      cases taken with
      | true => exact separate
      | false => exact closed _

/-- A wait leaves the collections apart, and sees only a reply of its own. -/
theorem Separate.pollReply
    {wait : Wait}
    (separate : control.Separate issued)
    (now : Nat)
    (known : wait.requestId ∈ issued) :
    (control.pollReply now wait).1.Separate issued := by
  unfold ControlState.pollReply
  split
  · exact separate.shrink (List.Subset.refl _) (List.Subset.refl _)
      (fun entry inside => (List.mem_filter.mp inside).1)
  rename_i missing
  split
  · exact separate
  split
  · exact separate
  -- The wait gives up: its request is not pending and has no reply.
  have removed := separate.removePending wait.requestId
  have unanswered : ∀ entry ∈ control.replies, entry.1 ≠ wait.requestId := by
    intro entry inside same
    have found := List.lookup_eq_none_iff.mp missing entry inside
    rw [same] at found
    simp at found
  dsimp only
  split
  · exact
      { removed with
        abandonedIssued := by
          intro id inside
          rcases List.mem_cons.mp inside with rfl | old
          · exact known
          · exact separate.abandonedIssued id old
        pendingAbandoned := by
          intro request inside given
          rcases List.mem_cons.mp given with same | old
          · exact (mem_pendingWithout.mp inside).2 same
          · exact removed.pendingAbandoned request inside old
        abandonedReplies := by
          intro id inside entry given
          rcases List.mem_cons.mp inside with rfl | old
          · exact unanswered entry given
          · exact separate.abandonedReplies id old entry given }
  · exact removed

theorem reply?_judge
    (wait : Wait)
    (reply : Reply) : (judge wait reply).reply? = some reply := by
  unfold judge
  split
  · rfl
  split
  · rfl
  split <;> rfl

/-- The reply that a wait returns is one that was kept for its request. -/
theorem Separate.own
    {now : Nat}
    {wait : Wait}
    {result : WaitResult}
    {reply : Reply}
    (separate : control.Separate issued)
    (returned : (control.pollReply now wait).2 = some result)
    (seen : result.reply? = some reply) : reply.requestId = wait.requestId := by
  unfold ControlState.pollReply at returned
  split at returned
  · rename_i kept found
    cases returned
    rw [reply?_judge] at seen
    cases seen
    obtain ⟨front, back, split, -⟩ := List.lookup_eq_some_iff.mp found
    refine separate.keyed (wait.requestId, reply) ?_
    rw [split]
    exact List.mem_append_right _ List.mem_cons_self
  split at returned
  · cases returned
    cases seen
  split at returned
  · cases returned
  · cases returned
    cases seen

end ControlState

open ControlState

namespace Dispatcher

/-- What every run keeps. -/
structure Sorted (dispatcher : Dispatcher) : Prop where
  separate : dispatcher.control.Separate dispatcher.issued
  writing : ∀ id ∈ dispatcher.writing, id ∈ dispatcher.issued
  written : ∀ id ∈ dispatcher.written, id ∈ dispatcher.issued
  waits : ∀ wait ∈ dispatcher.waits, wait.requestId ∈ dispatcher.issued
  returned : ∀ id result reply, (id, result) ∈ dispatcher.returned →
    result.reply? = some reply → reply.requestId = id

variable {before after : Dispatcher}

/-- An event that touches only the control state keeps it apart. -/
theorem Sorted.withControl
    (sorted : before.Sorted)
    (separate : after.control.Separate before.issued)
    (issued : after.issued = before.issued)
    (writing : after.writing = before.writing)
    (written : after.written = before.written)
    (waits : after.waits = before.waits)
    (returned : after.returned = before.returned) : after.Sorted where
  separate := by
    rw [issued]
    exact separate
  writing := by
    rw [writing, issued]
    exact sorted.writing
  written := by
    rw [written, issued]
    exact sorted.written
  waits := by
    rw [waits, issued]
    exact sorted.waits
  returned := by
    rw [returned]
    exact sorted.returned

theorem Sorted.polled
    {dispatcher : Dispatcher}
    {wait : Wait}
    (sorted : dispatcher.Sorted)
    (waiting : wait ∈ dispatcher.waits) : (dispatcher.polled wait).Sorted := by
  have separate := sorted.separate.pollReply dispatcher.now
    (sorted.waits wait waiting)
  unfold Dispatcher.polled
  cases outcome : dispatcher.control.pollReply dispatcher.now wait with
  | mk control result =>
      rw [outcome] at separate
      cases result with
      | none => exact sorted.withControl separate rfl rfl rfl rfl rfl
      | some result =>
          exact
            { separate := separate
              writing := sorted.writing
              written := sorted.written
              waits := fun other inside =>
                sorted.waits other (List.mem_of_mem_erase inside)
              returned := by
                intro id other reply logged seen
                rcases List.mem_cons.mp logged with same | old
                · cases same
                  exact sorted.separate.own
                    (by rw [outcome]) seen
                · exact sorted.returned id other reply old seen }

/-- Every event keeps the collections apart. -/
theorem sorted_dispatcherStep
    {event : DispatcherEvent}
    (sorted : before.Sorted)
    (stepped : dispatcherStep before event = some after) : after.Sorted := by
  have same : ∀ {control : ControlState},
      control.pendingRequests = before.control.pendingRequests →
      control.abandonedRequests = before.control.abandonedRequests →
      control.replies = before.control.replies →
      control.Separate before.issued := by
    intro control pending abandoned replies
    exact sorted.separate.shrink (by rw [pending]; exact List.Subset.refl _)
      (by rw [abandoned]; exact List.Subset.refl _)
      (by rw [replies]; exact List.Subset.refl _)
  cases event with
  | tick nanoseconds =>
      cases stepped
      exact sorted.withControl sorted.separate rfl rfl rfl rfl rfl
  | enter id =>
      simp only [dispatcherStep] at stepped
      split at stepped
      · cases stepped
      rename_i usable
      obtain ⟨control, accepted, rfl⟩ := Option.map_eq_some_iff.mp stepped
      exact
        { separate := sorted.separate.enterRequest
            (fun used => usable (Or.inr used)) accepted
          writing := by
            intro other inside
            rcases List.mem_cons.mp inside with rfl | old
            · exact List.mem_cons_self
            · exact List.mem_cons_of_mem _ (sorted.writing other old)
          written := fun other inside =>
            List.mem_cons_of_mem _ (sorted.written other inside)
          waits := fun other inside =>
            List.mem_cons_of_mem _ (sorted.waits other inside)
          returned := sorted.returned }
  | wrote id ok =>
      simp only [dispatcherStep] at stepped
      split at stepped
      · rename_i beingWritten
        cases ok with
        | true =>
            cases stepped
            exact
              { sorted with
                writing := fun other inside =>
                  sorted.writing other (List.mem_of_mem_erase inside)
                written := by
                  intro other inside
                  rcases List.mem_cons.mp inside with rfl | old
                  · exact sorted.writing other beingWritten
                  · exact sorted.written other old }
        | false =>
            cases stepped
            exact
              { sorted with
                separate := sorted.separate.shrink
                  (pendingWithout_subset _ id) (List.Subset.refl _)
                  (List.Subset.refl _)
                writing := fun other inside =>
                  sorted.writing other (List.mem_of_mem_erase inside) }
      · cases stepped
  | wait id expected expectedObjectId =>
      simp only [dispatcherStep] at stepped
      split at stepped
      · rename_i ready
        cases stepped
        exact
          { sorted with
            written := fun other inside =>
              sorted.written other (List.mem_of_mem_erase inside)
            waits := by
              intro other inside
              rcases List.mem_cons.mp inside with rfl | old
              · exact sorted.written id ready
              · exact sorted.waits other old }
      · cases stepped
  | poll wait =>
      simp only [dispatcherStep] at stepped
      split at stepped
      · rename_i waiting
        cases stepped
        exact sorted.polled waiting
      · cases stepped
  | read record | readFails =>
      simp only [dispatcherStep] at stepped
      split at stepped
      · cases stepped
      · cases stepped
        exact sorted.withControl (same rfl rfl rfl) rfl rfl rfl rfl rfl
  | route =>
      obtain ⟨record, -, rfl⟩ := Option.map_eq_some_iff.mp stepped
      exact sorted.withControl (sorted.separate.route record) rfl rfl rfl rfl
        rfl
  | heartbeat =>
      simp only [dispatcherStep] at stepped
      split at stepped
      · cases stepped
      split at stepped
      · cases stepped
        exact sorted.withControl sorted.separate rfl rfl rfl rfl rfl
      · cases stepped
        refine sorted.withControl ?_ rfl rfl rfl rfl rfl
        show (before.control.heartbeat before.now).1.Separate before.issued
        unfold ControlState.heartbeat
        split
        · exact sorted.separate
        split
        · exact same rfl rfl rfl
        · exact same rfl rfl rfl
  | probeWritten ok =>
      obtain ⟨ping, -, rfl⟩ := Option.map_eq_some_iff.mp stepped
      cases ok with
      | true => exact sorted.withControl sorted.separate rfl rfl rfl rfl rfl
      | false => exact sorted.withControl (same rfl rfl rfl) rfl rfl rfl rfl rfl

theorem sorted_start (now : Nat) : (start now).Sorted where
  separate :=
    { pendingIssued := fun _ inside => nomatch inside
      abandonedIssued := fun _ inside => nomatch inside
      repliesIssued := fun _ inside => nomatch inside
      pendingAbandoned := fun _ inside => nomatch inside
      pendingReplies := fun _ inside => nomatch inside
      abandonedReplies := fun _ inside => nomatch inside
      keyed := fun _ inside => nomatch inside }
  writing := fun _ inside => nomatch inside
  written := fun _ inside => nomatch inside
  waits := fun _ inside => nomatch inside
  returned := fun _ _ _ inside => nomatch inside

theorem sorted_reachable
    {guard : Dispatcher → DispatcherEvent → Prop}
    {dispatcher : Dispatcher}
    (reached : dispatcherMachine.Reachable guard dispatcher) :
    dispatcher.Sorted := by
  have preserved : dispatcherMachine.Preserved guard Sorted :=
    fun _ _ _ sorted _ stepped => sorted_dispatcherStep sorted stepped
  refine reached.invariant ?_ preserved
  rintro start ⟨now, rfl⟩
  exact sorted_start now

/-! ## The oldest pending request -/

end Dispatcher

namespace ControlState

/-- Without a request there is none pending, or the oldest one is as old. -/
def KeepsOldest (control : ControlState) (id : Nat) : Prop :=
  control.pendingWithout id = [] ∨
    oldestIssued (control.pendingWithout id) =
      oldestIssued control.pendingRequests

/-- A wait gives up at its next turn. -/
def GivesUp (control : ControlState) (now : Nat) (wait : Wait) : Prop :=
  control.replies.lookup wait.requestId = none ∧ control.closed = none ∧
    wait.deadline < now

/-- The time of the oldest pending request is right. -/
structure Timely (control : ControlState) (now : Nat) : Prop where
  oldest : control.oldestPendingRequest =
    oldestIssued control.pendingRequests
  past : ∀ request ∈ control.pendingRequests, request.issued ≤ now

variable {control : ControlState} {now id : Nat}

theorem Timely.later
    (timely : control.Timely now)
    (more : Nat) : control.Timely (now + more) where
  oldest := timely.oldest
  past request inside :=
    (timely.past request inside).trans (Nat.le_add_right _ _)

theorem Timely.same
    {before after : ControlState}
    (timely : before.Timely now)
    (oldest : after.oldestPendingRequest = before.oldestPendingRequest)
    (pending : after.pendingRequests = before.pendingRequests) :
    after.Timely now where
  oldest := by
    rw [oldest, pending]
    exact timely.oldest
  past := by
    rw [pending]
    exact timely.past

theorem Timely.enterRequest
    {control entered : ControlState}
    (timely : control.Timely now)
    (accepted : control.enterRequest now id = some entered) :
    entered.Timely now := by
  unfold ControlState.enterRequest at accepted
  split at accepted
  · cases accepted
  cases accepted
  exact
    { oldest := by
        rw [oldestIssued_concat timely.past, ← timely.oldest]
      past := by
        intro request inside
        rcases List.mem_append.mp inside with old | new
        · exact timely.past request old
        · rw [List.mem_singleton.mp new] }

theorem Timely.removePending
    (timely : control.Timely now)
    (keeps : control.KeepsOldest id) :
    (control.removePending id).Timely now where
  oldest := by
    show (if (control.pendingWithout id).isEmpty then none
      else control.oldestPendingRequest) =
      oldestIssued (control.pendingWithout id)
    rcases keeps with none | same
    · rw [none]
      rfl
    · rw [timely.oldest, ← same]
      split
      · rename_i empty
        rw [List.isEmpty_iff.mp empty]
        rfl
      · rfl
  past request inside := timely.past request (pendingWithout_subset _ _ inside)

theorem Timely.writeFailed
    (timely : control.Timely now)
    (same : oldestIssued (control.pendingWithout id) =
      oldestIssued control.pendingRequests) :
    (control.writeFailed id).Timely now where
  oldest := timely.oldest.trans same.symm
  past request inside := timely.past request (pendingWithout_subset _ _ inside)

theorem Timely.routeReply
    {reply : Reply}
    (timely : control.Timely now)
    (keeps : reply.requestId ∉ control.abandonedRequests →
      control.KeepsOldest reply.requestId) :
    (control.routeReply reply).Timely now := by
  unfold ControlState.routeReply
  split
  · exact timely
  split
  · exact timely.same rfl rfl
  rename_i expected
  split
  · have removed := timely.removePending (keeps expected)
    dsimp only
    split
    · exact removed.same rfl rfl
    · split
      · exact removed.same rfl rfl
      · exact removed.same rfl rfl
  · exact timely.same rfl rfl

variable {record : Inbound}

theorem Timely.route
    (timely : control.Timely now)
    (keeps : ∀ reply, record = .reply reply →
      reply.requestId ∉ control.abandonedRequests →
      control.KeepsOldest reply.requestId) :
    (control.route record).Timely now := by
  cases record with
  | ping answered =>
      cases answered with
      | true => exact timely
      | false => exact timely.same rfl rfl
  | pong objectId requestId =>
      unfold ControlState.route
      dsimp only
      split
      · exact timely.same rfl rfl
      · exact timely.same rfl rfl
  | reply reply => exact timely.routeReply (keeps reply rfl)
  | other taken =>
      cases taken with
      | true => exact timely
      | false => exact timely.same rfl rfl

theorem Timely.pollReply
    {wait : Wait}
    (timely : control.Timely now)
    (keeps : control.GivesUp now wait → control.KeepsOldest wait.requestId) :
    (control.pollReply now wait).1.Timely now := by
  unfold ControlState.pollReply
  split
  · exact timely.same rfl rfl
  rename_i missing
  split
  · exact timely
  rename_i goesOn
  split
  · exact timely
  · rename_i passed
    have removed := timely.removePending
      (keeps ⟨missing, goesOn, Nat.lt_of_not_le passed⟩)
    exact removed.same rfl rfl

/-- A wait times out only when it gives up, and with room its request is
abandoned; no other turn of a wait touches the abandoned requests. -/
theorem abandoned_pollReply
    {wait : Wait}
    (room : control.GivesUp now wait →
      control.abandonedRequests.length < maxPendingControlReplies) :
    (control.pollReply now wait).1.abandonedRequests =
      if (control.pollReply now wait).2 = some .timedOut then
        wait.requestId :: control.abandonedRequests
      else control.abandonedRequests := by
  unfold ControlState.pollReply at *
  split
  · have judged : ∀ reply, judge wait reply ≠ .timedOut := by
      intro reply same
      have seen := reply?_judge wait reply
      rw [same] at seen
      cases seen
    simp [judged]
  rename_i missing
  split
  · simp
  rename_i goesOn
  split
  · simp
  · rename_i passed
    simp [room ⟨missing, goesOn, Nat.lt_of_not_le passed⟩]

/-- A reply to an abandoned request is discarded. -/
theorem routeReply_abandoned
    {reply : Reply}
    (abandoned : reply.requestId ∈ control.abandonedRequests) :
    (control.routeReply reply).closed = control.closed ∧
      (control.routeReply reply).pendingRequests = control.pendingRequests ∧
      (control.routeReply reply).replies = control.replies := by
  unfold ControlState.routeReply
  split
  · exact ⟨rfl, rfl, rfl⟩
  · exact ⟨rfl, rfl, rfl⟩

/-- Routing takes from the abandoned requests that of the reply at most. -/
theorem mem_abandoned_route
    (abandoned : id ∈ control.abandonedRequests)
    (other : ∀ reply, record = .reply reply → id ≠ reply.requestId) :
    id ∈ (control.route record).abandonedRequests := by
  cases record with
  | ping answered => cases answered <;> exact abandoned
  | pong objectId requestId =>
      unfold ControlState.route
      dsimp only
      split <;> exact abandoned
  | reply reply =>
      show id ∈ (control.routeReply reply).abandonedRequests
      unfold ControlState.routeReply
      split
      · exact abandoned
      split
      · refine List.mem_filter.mpr ⟨abandoned, ?_⟩
        simp [other reply rfl]
      split
      · dsimp only
        split
        · exact abandoned
        · split <;> exact abandoned
      · exact abandoned
  | other taken => cases taken <;> exact abandoned

end ControlState

/-- No failed write uncovers a younger oldest request or removes the last one,
no reply and no wait that gives up uncovers a younger one, and a wait gives up
only while there is room for its request. -/
def Undisturbed
    (dispatcher : Dispatcher) :
    DispatcherEvent → Prop
  | .wrote id false =>
      oldestIssued (dispatcher.control.pendingWithout id) =
        oldestIssued dispatcher.control.pendingRequests
  | .route => ∀ reply, dispatcher.reading = some (.reply reply) →
      reply.requestId ∉ dispatcher.control.abandonedRequests →
      dispatcher.control.KeepsOldest reply.requestId
  | .poll wait => dispatcher.control.GivesUp dispatcher.now wait →
      dispatcher.control.abandonedRequests.length <
          maxPendingControlReplies ∧
        dispatcher.control.KeepsOldest wait.requestId
  | _ => True

namespace Dispatcher

/-- What undisturbed runs keep. -/
structure Punctual (dispatcher : Dispatcher) : Prop where
  timely : dispatcher.control.Timely dispatcher.now
  overdue : ∀ id ∈ dispatcher.overdue,
    id ∈ dispatcher.control.abandonedRequests

theorem Punctual.withControl
    {before after : Dispatcher}
    (punctual : before.Punctual)
    (now : after.now = before.now)
    (timely : after.control.Timely before.now)
    (abandoned : after.control.abandonedRequests =
      before.control.abandonedRequests)
    (overdue : after.overdue = before.overdue) : after.Punctual where
  timely := by
    rw [now]
    exact timely
  overdue := by
    rw [overdue, abandoned]
    exact punctual.overdue

variable {dispatcher : Dispatcher}

theorem Punctual.polled
    {wait : Wait}
    (punctual : dispatcher.Punctual)
    (keeps : dispatcher.control.GivesUp dispatcher.now wait →
      dispatcher.control.abandonedRequests.length <
          maxPendingControlReplies ∧
        dispatcher.control.KeepsOldest wait.requestId) :
    (dispatcher.polled wait).Punctual := by
  have timely := punctual.timely.pollReply (fun gives => (keeps gives).2)
  have abandoned := abandoned_pollReply (fun gives => (keeps gives).1)
  unfold Dispatcher.polled
  cases outcome : dispatcher.control.pollReply dispatcher.now wait with
  | mk control result =>
      rw [outcome] at timely abandoned
      cases result with
      | none => exact punctual.withControl rfl timely (by simpa using abandoned) rfl
      | some result =>
          refine ⟨timely, ?_⟩
          intro id late
          rw [show control.abandonedRequests = _ from abandoned]
          dsimp only at late
          by_cases beyond : result = .timedOut
          · rw [if_pos beyond] at late
            rw [if_pos (by rw [beyond])]
            rcases List.mem_cons.mp late with rfl | old
            · exact List.mem_cons_self
            · exact List.mem_cons_of_mem _ (punctual.overdue id old)
          · rw [if_neg beyond] at late
            rw [if_neg (by simpa using beyond)]
            exact punctual.overdue id late

theorem Punctual.routed
    {record : Inbound}
    (punctual : dispatcher.Punctual)
    (keeps : ∀ reply, record = .reply reply →
      reply.requestId ∉ dispatcher.control.abandonedRequests →
      dispatcher.control.KeepsOldest reply.requestId) :
    (dispatcher.routed record).Punctual where
  timely := punctual.timely.route keeps
  overdue := by
    intro id late
    cases record with
    | reply reply =>
        obtain ⟨old, other⟩ := List.mem_filter.mp late
        refine mem_abandoned_route (punctual.overdue id old) ?_
        intro same equal
        cases equal
        simpa using other
    | ping answered | pong objectId requestId | other taken =>
        exact mem_abandoned_route (punctual.overdue id late)
          (fun _ equal => nomatch equal)

/-- Every undisturbed event keeps the times. -/
theorem punctual_dispatcherStep
    {before after : Dispatcher}
    {event : DispatcherEvent}
    (punctual : before.Punctual)
    (undisturbed : Undisturbed before event)
    (stepped : dispatcherStep before event = some after) : after.Punctual := by
  cases event with
  | tick nanoseconds =>
      cases stepped
      exact
        { timely := punctual.timely.later nanoseconds
          overdue := punctual.overdue }
  | enter id =>
      simp only [dispatcherStep] at stepped
      split at stepped
      · cases stepped
      obtain ⟨control, accepted, rfl⟩ := Option.map_eq_some_iff.mp stepped
      refine punctual.withControl rfl
        (punctual.timely.enterRequest accepted) ?_ rfl
      unfold ControlState.enterRequest at accepted
      split at accepted
      · cases accepted
      · cases accepted
        rfl
  | wrote id ok =>
      simp only [dispatcherStep] at stepped
      split at stepped
      · cases ok with
        | true =>
            cases stepped
            exact punctual.withControl rfl punctual.timely rfl rfl
        | false =>
            cases stepped
            exact punctual.withControl rfl
              (punctual.timely.writeFailed undisturbed) rfl rfl
      · cases stepped
  | wait id expected expectedObjectId =>
      simp only [dispatcherStep] at stepped
      split at stepped
      · cases stepped
        exact punctual.withControl rfl punctual.timely rfl rfl
      · cases stepped
  | poll wait =>
      simp only [dispatcherStep] at stepped
      split at stepped
      · cases stepped
        exact punctual.polled undisturbed
      · cases stepped
  | read record | readFails =>
      simp only [dispatcherStep] at stepped
      split at stepped
      · cases stepped
      · cases stepped
        exact punctual.withControl rfl (punctual.timely.same rfl rfl) rfl rfl
  | route =>
      obtain ⟨record, reading, rfl⟩ := Option.map_eq_some_iff.mp stepped
      exact punctual.routed fun reply same =>
        undisturbed reply (by rw [reading, same])
  | heartbeat =>
      simp only [dispatcherStep] at stepped
      split at stepped
      · cases stepped
      split at stepped
      · cases stepped
        exact punctual.withControl rfl punctual.timely rfl rfl
      · cases stepped
        have probe :
            (before.control.heartbeat before.now).1.Timely before.now ∧
              (before.control.heartbeat before.now).1.abandonedRequests =
                before.control.abandonedRequests := by
          unfold ControlState.heartbeat
          split
          · exact ⟨punctual.timely, rfl⟩
          split
          · exact ⟨punctual.timely.same rfl rfl, rfl⟩
          · exact ⟨punctual.timely.same rfl rfl, rfl⟩
        exact punctual.withControl rfl probe.1 probe.2 rfl
  | probeWritten ok =>
      obtain ⟨ping, -, rfl⟩ := Option.map_eq_some_iff.mp stepped
      cases ok with
      | true => exact punctual.withControl rfl punctual.timely rfl rfl
      | false =>
          exact punctual.withControl rfl (punctual.timely.same rfl rfl) rfl rfl

theorem punctual_reachable
    (reached : dispatcherMachine.Reachable Undisturbed dispatcher) :
    dispatcher.Punctual := by
  have preserved : dispatcherMachine.Preserved Undisturbed Punctual :=
    fun _ _ _ punctual undisturbed stepped =>
      punctual_dispatcherStep punctual undisturbed stepped
  refine reached.invariant ?_ preserved
  rintro begin ⟨now, rfl⟩
  exact
    { timely := ⟨rfl, fun _ inside => nomatch inside⟩
      overdue := fun _ inside => nomatch inside }

/-- Control replies reach their own request. -/
structure Correlated (dispatcher : Dispatcher) : Prop where
  pendingAbandoned : ∀ request ∈ dispatcher.control.pendingRequests,
    request.id ∉ dispatcher.control.abandonedRequests
  pendingReplies : ∀ request ∈ dispatcher.control.pendingRequests,
    ∀ entry ∈ dispatcher.control.replies, entry.1 ≠ request.id
  abandonedReplies : ∀ id ∈ dispatcher.control.abandonedRequests,
    ∀ entry ∈ dispatcher.control.replies, entry.1 ≠ id
  /-- A reply is returned only to the wait for its own request. -/
  own : ∀ id result reply, (id, result) ∈ dispatcher.returned →
    result.reply? = some reply → reply.requestId = id
  /-- A late reply is discarded. -/
  late : ∀ reply : Reply, reply.requestId ∈ dispatcher.overdue →
    (dispatcher.control.routeReply reply).closed = dispatcher.control.closed ∧
      (dispatcher.control.routeReply reply).pendingRequests =
        dispatcher.control.pendingRequests ∧
      (dispatcher.control.routeReply reply).replies =
        dispatcher.control.replies
  oldest : ∀ time, dispatcher.control.oldestPendingRequest = some time ↔
    (∃ request ∈ dispatcher.control.pendingRequests,
        request.issued = time) ∧
      ∀ request ∈ dispatcher.control.pendingRequests, time ≤ request.issued
  /-- The heartbeat takes a request for stalled only when one is. -/
  stalled : dispatcher.control.requestStalled dispatcher.now = true →
    ∃ request ∈ dispatcher.control.pendingRequests,
      request.issued + heartbeatInterval ≤ dispatcher.now

end Dispatcher

open Dispatcher

/-- Every undisturbed run correlates its replies. -/
theorem replies_correlated
    {dispatcher : Dispatcher}
    (reached : dispatcherMachine.Reachable Undisturbed dispatcher) :
    dispatcher.Correlated := by
  have sorted := sorted_reachable reached
  have punctual := punctual_reachable reached
  have oldest : ∀ time,
      dispatcher.control.oldestPendingRequest = some time ↔
        (∃ request ∈ dispatcher.control.pendingRequests,
            request.issued = time) ∧
          ∀ request ∈ dispatcher.control.pendingRequests,
            time ≤ request.issued := by
    intro time
    rw [punctual.timely.oldest, oldestIssued_eq_some_iff]
  exact
    { pendingAbandoned := sorted.separate.pendingAbandoned
      pendingReplies := sorted.separate.pendingReplies
      abandonedReplies := sorted.separate.abandonedReplies
      own := sorted.returned
      late := fun reply late => routeReply_abandoned (punctual.overdue _ late)
      oldest := oldest
      stalled := by
        intro stalled
        unfold ControlState.requestStalled at stalled
        split at stalled
        · cases stalled
        · rename_i time first
          obtain ⟨⟨request, inside, same⟩, -⟩ := (oldest time).mp first
          have old := of_decide_eq_true stalled
          have since := punctual.timely.past request inside
          refine ⟨request, inside, ?_⟩
          rw [same] at since ⊢
          have positive : 0 < heartbeatInterval := by decide
          omega }

/-- Whether an event leaves the run undisturbed. -/
def isUndisturbed
    (dispatcher : Dispatcher) :
    DispatcherEvent → Bool
  | .wrote id false =>
      decide (oldestIssued (dispatcher.control.pendingWithout id) =
        oldestIssued dispatcher.control.pendingRequests)
  | .route =>
      match dispatcher.reading with
      | some (.reply reply) =>
          (dispatcher.control.pendingWithout reply.requestId).isEmpty
      | _ => true
  | .poll wait =>
      decide (dispatcher.control.abandonedRequests.length <
          maxPendingControlReplies) &&
        (dispatcher.control.pendingWithout wait.requestId).isEmpty
  | _ => true

theorem undisturbed_of_isUndisturbed
    (dispatcher : Dispatcher)
    (event : DispatcherEvent)
    (passes : isUndisturbed dispatcher event = true) :
    Undisturbed dispatcher event := by
  cases event with
  | wrote id ok =>
      cases ok with
      | true => trivial
      | false =>
          simp only [isUndisturbed, decide_eq_true_eq] at passes
          exact passes
  | route =>
      intro reply reading _
      simp only [isUndisturbed, reading] at passes
      exact Or.inl (List.isEmpty_iff.mp passes)
  | poll wait =>
      intro _
      simp only [isUndisturbed, Bool.and_eq_true, decide_eq_true_eq] at passes
      exact ⟨passes.1, Or.inl (List.isEmpty_iff.mp passes.2)⟩
  | _ => trivial

/-- One request is answered, and the next times out before its reply comes. -/
def answeredAndLate :
    List DispatcherEvent :=
  [.enter 1, .wrote 1 true, .wait 1 (.other 2) 0,
    .read (.reply ⟨1, 0, .other 2⟩), .route,
    .poll ⟨1, .other 2, 0, controlReplyTimeout⟩, .enter 2, .wrote 2 true,
    .wait 2 (.other 2) 0, .tick (seconds 6), .heartbeat,
    .poll ⟨2, .other 2, 0, controlReplyTimeout⟩]

def afterLate :
    Dispatcher :=
  (Machine.follow dispatcherStep isUndisturbed (start 0) answeredAndLate).getD
    (start 0)

theorem replies_correlated_late :
    afterLate.returned =
        [(2, .timedOut), (1, .ok ⟨1, 0, .other 2⟩)] ∧
      afterLate.overdue = [2] ∧ afterLate.Correlated := by
  have followed :
      Machine.follow dispatcherStep isUndisturbed (start 0) answeredAndLate =
        some afterLate := by
    decide +kernel
  refine ⟨by decide +kernel, by decide +kernel, replies_correlated ?_⟩
  exact Machine.Reachable.follow (fun _ _ _ stepped => stepped)
    undisturbed_of_isUndisturbed (.initial ⟨0, rfl⟩) followed

/-- The only request could not be written. -/
def writeFails :
    List DispatcherEvent :=
  [.enter 1, .wrote 1 false]

def afterFailedWrite :
    Dispatcher :=
  (Machine.follow dispatcherStep (fun _ _ => true) (start 0) writeFails).getD
    (start 0)

theorem failed_write_stays_oldest :
    ¬ ∀ dispatcher : Dispatcher,
      dispatcherMachine.Reachable (fun _ _ => True) dispatcher →
        dispatcher.Correlated := by
  intro always
  have followed :
      Machine.follow dispatcherStep (fun _ _ => true) (start 0) writeFails =
        some afterFailedWrite := by
    decide +kernel
  have correlated := always afterFailedWrite
    (Machine.Reachable.follow (fun _ _ _ stepped => stepped)
      (fun _ _ _ => trivial) (.initial ⟨0, rfl⟩) followed)
  have still : afterFailedWrite.control.oldestPendingRequest = some 0 := by
    decide +kernel
  obtain ⟨⟨request, inside, -⟩, -⟩ := (correlated.oldest 0).mp still
  have none : afterFailedWrite.control.pendingRequests = [] := by
    decide +kernel
  rw [none] at inside
  cases inside

end Bridge
end Vvmux
