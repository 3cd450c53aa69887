import Vvmux.Automation.Requests

/-!
# One reply for each request

Every request that arrives is, in every state, in exactly one place: answered,
dropped for want of room, with a waiter, with a worker, or discarded with its
client.  An operation moves requests between places; the request it is working
on is open meanwhile.  Beside this, the IDs that are in flight for a client
are those of its waiters and of its pending work.
-/

namespace Vvmux

open Library

namespace Automation

open Layout (PaneId)

namespace AutomationActor

/-! ## Places -/

/-- Who asked, for every request that is in some place. -/
def targets (actor : AutomationActor) : List ReplyTarget :=
  actor.answered.map AutomationResponseJob.target ++ actor.dropped ++
    actor.automationWaiters.map Waiter.reply ++ actor.workers ++
    actor.discarded

/-- How many of some targets are of one request. -/
def occurrences (targets : List ReplyTarget) (request : Nat) : Nat :=
  targets.countP fun target => target.request == request

/-- Every request that arrived is open or in one place, under its own client
and ID. -/
structure Accounted
    (actor : AutomationActor)
    (opened : List ReplyTarget) : Prop where
  once : ∀ request, occurrences (opened ++ actor.targets) request =
    if request < actor.arrivals.length then 1 else 0
  known : ∀ target ∈ opened ++ actor.targets,
    actor.arrivals[target.request]? = some (target.clientId, target.requestId)
  labelled : ∀ job ∈ actor.answered, job.response.id = job.target.requestId
  cancels : ∀ target ∈ actor.dropped, target.clientId ∈ actor.cancelled

variable {before after actor : AutomationActor}
  {opened others : List ReplyTarget} {target : ReplyTarget} {clientId now : Nat}
  {outside : Outside} {paneId : Option PaneId} {request : AutomationRequest}

/-- Requests that only change places. -/
theorem Accounted.move
    (accounted : Accounted before opened)
    (arrivals : after.arrivals = before.arrivals)
    (places : (others ++ after.targets).Perm (opened ++ before.targets))
    (labelled : ∀ job ∈ after.answered,
      job.response.id = job.target.requestId)
    (cancels : ∀ target ∈ after.dropped,
      target.clientId ∈ after.cancelled) :
    Accounted after others where
  once := by
    intro request
    rw [arrivals, ← accounted.once request]
    exact places.countP_eq _
  known := by
    rw [arrivals]
    exact fun target here => accounted.known target (places.mem_iff.mp here)
  labelled := labelled
  cancels := cancels

/-- A request arrives. -/
theorem Accounted.arrive
    (accounted : Accounted actor [])
    (clientId requestId : Nat)
    (inflight : OrderedMap Nat (Finset Nat)) :
    Accounted
      { actor with
        arrivals := actor.arrivals ++ [(clientId, requestId)]
        automationInflight := inflight }
      [{ clientId := clientId
         requestId := requestId
         request := actor.arrivals.length }] where
  once := by
    intro request
    have before := accounted.once request
    simp only [occurrences, List.nil_append, targets] at before
    simp only [occurrences, List.cons_append, List.nil_append, targets,
      List.countP_cons, before, List.length_append, List.length_singleton,
      beq_iff_eq]
    split_ifs <;> omega
  known := by
    intro target here
    rcases List.mem_cons.mp here with new | old
    · rw [new]
      simp
    · have there := accounted.known target old
      obtain ⟨inside, -⟩ := List.getElem?_eq_some_iff.mp there
      dsimp only
      rw [List.getElem?_append_left inside]
      exact there
  labelled := accounted.labelled
  cancels := accounted.cancels

/-- Whatever becomes of a response, its request is no longer open. -/
theorem Accounted.send
    (accounted : Accounted actor (target :: opened))
    (result : AutomationResult) :
    Accounted (actor.sendAutomationResponse target result) opened := by
  unfold sendAutomationResponse
  dsimp only
  split
  · refine accounted.move rfl ?_ ?_ accounted.cancels
    · simp only [targets, List.map_cons, List.cons_append]
      exact List.perm_middle
    · intro job listed
      rcases List.mem_cons.mp listed with new | old
      · rw [new]
      · exact accounted.labelled job old
  · refine accounted.move rfl ?_ accounted.labelled ?_
    · simp only [targets, List.append_assoc, List.cons_append]
      refine List.Perm.trans ?_ List.perm_middle
      exact List.Perm.append_left _ List.perm_middle
    · intro other listed
      rw [Finset.mem_insert]
      rcases List.mem_cons.mp listed with new | old
      · exact .inl (by rw [new])
      · exact .inr (accounted.cancels other old)

/-! ## IDs in flight -/

/-- The IDs of one client's requests among some. -/
def idsOf (clientId : Nat) (targets : List ReplyTarget) : List Nat :=
  (targets.filter fun target => target.clientId = clientId).map
    ReplyTarget.requestId

/-- The requests that waiters and workers hold. -/
def held (actor : AutomationActor) : List ReplyTarget :=
  actor.automationWaiters.map Waiter.reply ++ actor.workers

theorem mem_idsOf
    {clientId id : Nat}
    {targets : List ReplyTarget} :
    id ∈ idsOf clientId targets ↔
      ∃ target ∈ targets,
        target.clientId = clientId ∧ target.requestId = id := by
  simp only [idsOf, List.mem_map, List.mem_filter, decide_eq_true_eq,
    and_assoc]

theorem idsOf_append
    (clientId : Nat)
    (left right : List ReplyTarget) :
    idsOf clientId (left ++ right) =
      idsOf clientId left ++ idsOf clientId right := by
  simp only [idsOf, List.filter_append, List.map_append]

theorem idsOf_perm
    {left right : List ReplyTarget}
    (same : left.Perm right)
    (clientId : Nat) : (idsOf clientId left).Perm (idsOf clientId right) :=
  (same.filter _).map _

theorem idsOf_cons_self
    (target : ReplyTarget)
    (rest : List ReplyTarget) :
    idsOf target.clientId (target :: rest) =
      target.requestId :: idsOf target.clientId rest := by
  simp [idsOf]

theorem idsOf_cons_of_ne
    (other : target.clientId ≠ clientId)
    (rest : List ReplyTarget) :
    idsOf clientId (target :: rest) = idsOf clientId rest := by
  simp [idsOf, other]

/-- Of the requests that one client does not ask, those of the others are
all there is. -/
theorem idsOf_filter_of_ne
    {clientId gone : Nat}
    (other : clientId ≠ gone)
    (targets : List ReplyTarget) :
    idsOf clientId (targets.filter fun target => target.clientId ≠ gone) =
      idsOf clientId targets := by
  unfold idsOf
  rw [List.filter_filter]
  congr 1
  refine List.filter_congr fun target _ => ?_
  by_cases own : target.clientId = clientId
  · simp [own, other]
  · simp [own]

/-- The IDs in flight for a client are those of its open requests, of its
waiters and of its workers; pending work is that of the workers. -/
structure Booked
    (actor : AutomationActor)
    (opened : List ReplyTarget) : Prop where
  distinct : ∀ clientId ∈ actor.connected,
    (idsOf clientId (opened ++ actor.held)).Nodup
  booked : ∀ clientId ∈ actor.connected, ∀ id,
    id ∈ actor.inflight clientId ↔ id ∈ idsOf clientId (opened ++ actor.held)
  pending : ∀ clientId ∈ actor.connected, ∀ id,
    (clientId, id) ∈ actor.pendingActorWork ↔ id ∈ idsOf clientId actor.workers
  asking : ∀ target ∈ opened ++ actor.automationWaiters.map Waiter.reply,
    target.clientId ∈ actor.connected
  vacated : ∀ clientId ∉ actor.connected,
    actor.inflight clientId = ∅ ∧ ∀ id, (clientId, id) ∉ actor.pendingActorWork
  left : ∀ target ∈ actor.discarded, target.clientId ∉ actor.connected
  issued : ∀ clientId ∈ actor.connected, clientId < actor.nextClient
  numbered : ∀ target ∈ actor.workers ++ actor.discarded,
    target.clientId < actor.nextClient

/-- Requests that go from open to a waiter or back. -/
theorem Booked.move
    (booked : Booked before opened)
    (inflight : after.inflight = before.inflight)
    (pending : after.pendingActorWork = before.pendingActorWork)
    (workers : after.workers = before.workers)
    (clients : after.connected = before.connected ∧
      after.nextClient = before.nextClient ∧
      after.discarded = before.discarded)
    (waiting : (others ++ after.automationWaiters.map Waiter.reply).Perm
      (opened ++ before.automationWaiters.map Waiter.reply)) :
    Booked after others := by
  obtain ⟨connected, nextClient, discarded⟩ := clients
  have places : (others ++ after.held).Perm (opened ++ before.held) := by
    unfold held
    rw [workers, ← List.append_assoc, ← List.append_assoc]
    exact waiting.append_right _
  exact
    { distinct := by
        rw [connected]
        exact fun clientId present => (idsOf_perm places clientId).nodup_iff.mpr
          (booked.distinct clientId present)
      booked := by
        rw [connected, inflight]
        exact fun clientId present id =>
          (booked.booked clientId present id).trans
            (idsOf_perm places clientId).mem_iff.symm
      pending := by
        rw [connected, pending, workers]
        exact booked.pending
      asking := by
        rw [connected]
        exact fun target here => booked.asking target (waiting.mem_iff.mp here)
      vacated := by
        rw [connected, inflight, pending]
        exact booked.vacated
      left := by
        rw [connected, discarded]
        exact booked.left
      issued := by
        rw [connected, nextClient]
        exact booked.issued
      numbered := by
        rw [workers, discarded, nextClient]
        exact booked.numbered }

/-- A finished request is no longer in flight. -/
theorem inflight_finishAutomationRequest
    (actor : AutomationActor)
    (clientId requestId : Nat) :
    (actor.finishAutomationRequest clientId requestId).inflight =
      Function.update actor.inflight clientId
        ((actor.inflight clientId).erase requestId) := by
  funext query
  unfold finishAutomationRequest
  by_cases own : query = clientId
  · subst own
    rw [Function.update_self]
    unfold inflight
    cases stored : actor.automationInflight.find? query with
    | none => simp [stored]
    | some requests =>
        dsimp only
        split
        · rename_i nothing
          simp [OrderedMap.find?_erase, nothing]
        · simp
  · rw [Function.update_of_ne own]
    unfold inflight
    cases stored : actor.automationInflight.find? clientId with
    | none => rfl
    | some requests =>
        dsimp only
        split
        · simp [OrderedMap.find?_erase, own]
        · simp [OrderedMap.find?_insert, own]

/-- Finishing a request changes nothing else. -/
theorem finishAutomationRequest_eq
    (actor : AutomationActor)
    (clientId requestId : Nat) :
    ∃ automationInflight,
      actor.finishAutomationRequest clientId requestId =
        { actor with automationInflight := automationInflight } := by
  unfold finishAutomationRequest
  split
  · exact ⟨_, rfl⟩
  · dsimp only
    split
    · exact ⟨_, rfl⟩
    · exact ⟨_, rfl⟩

/-- The request that is worked on is finished. -/
theorem Booked.finish
    (booked : Booked actor (target :: opened)) :
    Booked (actor.finishAutomationRequest target.clientId target.requestId)
      opened := by
  have inflight := inflight_finishAutomationRequest actor target.clientId
    target.requestId
  obtain ⟨requests, finished⟩ := finishAutomationRequest_eq actor
    target.clientId target.requestId
  rw [finished] at inflight ⊢
  have present := booked.asking target (by simp)
  have fresh := booked.distinct _ present
  rw [List.cons_append, idsOf_cons_self, List.nodup_cons] at fresh
  exact
    { distinct := by
        intro clientId connected
        have before := booked.distinct clientId connected
        rw [List.cons_append] at before
        exact before.sublist ((List.sublist_cons_self _ _).filter _ |>.map _)
      booked := by
        intro clientId connected id
        rw [inflight]
        by_cases own : clientId = target.clientId
        · subst own
          have before := booked.booked _ connected id
          rw [List.cons_append, idsOf_cons_self, List.mem_cons] at before
          rw [Function.update_self, Finset.mem_erase, before]
          constructor
          · rintro ⟨other, same | here⟩
            · exact absurd same other
            · exact here
          · intro here
            exact ⟨fun same => fresh.1 (same ▸ here), .inr here⟩
        · rw [Function.update_of_ne own, booked.booked _ connected id,
            List.cons_append, idsOf_cons_of_ne (Ne.symm own)]
          rfl
      pending := booked.pending
      asking := fun other here => booked.asking other (by
        rw [List.cons_append]
        exact List.mem_cons_of_mem _ here)
      vacated := by
        intro clientId absent
        have other : clientId ≠ target.clientId := fun same =>
          absent (same ▸ present)
        rw [inflight, Function.update_of_ne other]
        exact booked.vacated clientId absent
      left := booked.left
      issued := booked.issued
      numbered := booked.numbered }

/-- Finishing what is not in flight changes nothing that is. -/
theorem Booked.finishIdle
    (booked : Booked actor opened)
    {clientId requestId : Nat}
    (idle : requestId ∉ actor.inflight clientId) :
    Booked (actor.finishAutomationRequest clientId requestId) opened := by
  have inflight := inflight_finishAutomationRequest actor clientId requestId
  obtain ⟨requests, finished⟩ := finishAutomationRequest_eq actor clientId
    requestId
  rw [finished] at inflight ⊢
  rw [Finset.erase_eq_of_notMem idle, Function.update_eq_self] at inflight
  exact booked.move inflight rfl rfl ⟨rfl, rfl, rfl⟩ (.refl _)

/-- The queue and its history are not among the books. -/
theorem Booked.send
    (booked : Booked actor opened)
    (target : ReplyTarget)
    (result : AutomationResult) :
    Booked (actor.sendAutomationResponse target result) opened := by
  unfold sendAutomationResponse
  dsimp only
  split
  · exact booked.move rfl rfl rfl ⟨rfl, rfl, rfl⟩ (.refl _)
  · exact booked.move rfl rfl rfl ⟨rfl, rfl, rfl⟩ (.refl _)

/-- A worker takes over a request. -/
theorem Booked.work
    (booked : Booked actor (target :: opened)) :
    Booked
      { actor with
        pendingActorWork := insert (target.clientId, target.requestId)
          actor.pendingActorWork
        workers := actor.workers ++ [target] }
      opened := by
  have present := booked.asking target (by simp)
  have places : (opened ++ (actor.automationWaiters.map Waiter.reply ++
      (actor.workers ++ [target]))).Perm
        ((target :: opened) ++ actor.held) := by
    unfold held
    rw [← List.append_assoc, ← List.append_assoc]
    refine (List.perm_append_singleton _ _).trans ?_
    rw [List.cons_append, List.append_assoc]
  exact
    { distinct := fun clientId connected =>
        (idsOf_perm places clientId).nodup_iff.mpr
          (booked.distinct clientId connected)
      booked := fun clientId connected id =>
        (booked.booked clientId connected id).trans
          (idsOf_perm places clientId).mem_iff.symm
      pending := by
        intro clientId connected id
        have before := booked.pending clientId connected id
        dsimp only
        rw [Finset.mem_insert, before, idsOf_append, List.mem_append,
          @mem_idsOf clientId id [target]]
        simp only [Prod.mk.injEq, List.mem_singleton, exists_eq_left]
        constructor
        · rintro (⟨own, same⟩ | here)
          · exact .inr ⟨own.symm, same.symm⟩
          · exact .inl here
        · rintro (here | ⟨own, same⟩)
          · exact .inr here
          · exact .inl ⟨own.symm, same.symm⟩
      asking := fun other here => booked.asking other (by
        rw [List.cons_append]
        exact List.mem_cons_of_mem _ here)
      vacated := by
        intro clientId absent
        refine ⟨(booked.vacated clientId absent).1, fun id listed => ?_⟩
        rcases Finset.mem_insert.mp listed with same | old
        · injection same with own
          exact absent (own ▸ present)
        · exact (booked.vacated clientId absent).2 id old
      left := booked.left
      issued := booked.issued
      numbered := by
        intro other here
        rcases List.mem_append.mp here with working | gone
        · rcases List.mem_append.mp working with old | new
          · exact booked.numbered other (List.mem_append_left _ old)
          · rw [List.mem_singleton.mp new]
            exact booked.issued _ present
        · exact booked.numbered other (List.mem_append_right _ gone) }

/-- The rest of the workers, without one of them and its pending work. -/
theorem Booked.release
    {actor : AutomationActor}
    {target : ReplyTarget}
    {rest : List ReplyTarget}
    (booked : Booked actor [])
    (taken : (target :: rest).Perm actor.workers) :
    (target.clientId ∈ actor.connected →
      Booked ({ actor with workers := rest }.completePendingActorWork target)
        [target]) ∧
    (target.clientId ∉ actor.connected →
      Booked ({ actor with workers := rest }.completePendingActorWork target)
        []) := by
  have places : (target :: (actor.automationWaiters.map Waiter.reply ++
      rest)).Perm actor.held :=
    List.perm_middle.symm.trans (taken.append_left _)
  -- The pending work of a client is that of its other workers.
  have pending : ∀ clientId ∈ actor.connected, ∀ id,
      (clientId, id) ∈ actor.pendingActorWork.erase
        (target.clientId, target.requestId) ↔ id ∈ idsOf clientId rest := by
    intro clientId connected id
    have before := booked.pending clientId connected id
    have working := idsOf_perm taken clientId
    rw [Finset.mem_erase, before, ← working.mem_iff]
    by_cases own : target.clientId = clientId
    · subst own
      rw [idsOf_cons_self]
      have nodup : (target.requestId :: idsOf target.clientId rest).Nodup := by
        rw [← idsOf_cons_self, working.nodup_iff]
        have all := booked.distinct _ connected
        rw [List.nil_append, held, idsOf_append] at all
        exact all.of_append_right
      rw [List.nodup_cons] at nodup
      constructor
      · rintro ⟨other, here⟩
        rcases List.mem_cons.mp here with same | old
        · exact absurd (by rw [same]) other
        · exact old
      · intro here
        refine ⟨fun same => ?_, List.mem_cons_of_mem _ here⟩
        injection same with _ same
        exact nodup.1 (same ▸ here)
    · rw [idsOf_cons_of_ne own]
      exact ⟨fun here => here.2, fun here =>
        ⟨fun same => own (by injection same with same; exact same.symm), here⟩⟩
  have vacated : ∀ clientId ∉ actor.connected,
      actor.inflight clientId = ∅ ∧
        ∀ id, (clientId, id) ∉ actor.pendingActorWork.erase
          (target.clientId, target.requestId) :=
    fun clientId absent => ⟨(booked.vacated clientId absent).1,
      fun id listed => (booked.vacated clientId absent).2 id
        (Finset.mem_of_mem_erase listed)⟩
  have numbered : ∀ other ∈ rest ++ actor.discarded,
      other.clientId < actor.nextClient := by
    intro other here
    refine booked.numbered other ?_
    rcases List.mem_append.mp here with working | gone
    · exact List.mem_append_left _
        (taken.mem_iff.mp (List.mem_cons_of_mem _ working))
    · exact List.mem_append_right _ gone
  constructor
  · intro present
    exact
      { distinct := fun clientId connected =>
          (idsOf_perm places clientId).nodup_iff.mpr
            (booked.distinct clientId connected)
        booked := fun clientId connected id =>
          (booked.booked clientId connected id).trans
            (idsOf_perm places clientId).mem_iff.symm
        pending := pending
        asking := by
          intro other here
          rcases List.mem_cons.mp here with same | old
          · rw [same]
            exact present
          · exact booked.asking other old
        vacated := vacated
        left := booked.left
        issued := booked.issued
        numbered := numbered }
  · intro absent
    have others : ∀ clientId ∈ actor.connected,
        idsOf clientId (target :: (actor.automationWaiters.map Waiter.reply ++
          rest)) =
        idsOf clientId (actor.automationWaiters.map Waiter.reply ++ rest) :=
      fun clientId connected => idsOf_cons_of_ne
        (fun own => absent (own ▸ connected)) _
    exact
      { distinct := by
          intro clientId connected
          have before := (idsOf_perm places clientId).nodup_iff.mpr
            (booked.distinct clientId connected)
          rw [others clientId connected] at before
          exact before
        booked := by
          intro clientId connected id
          have before := (booked.booked clientId connected id).trans
            (idsOf_perm places clientId).mem_iff.symm
          rw [others clientId connected] at before
          exact before
        pending := pending
        asking := booked.asking
        vacated := vacated
        left := booked.left
        issued := booked.issued
        numbered := numbered }

theorem inflight_insert
    (actor : AutomationActor)
    (clientId : Nat)
    (requests : Finset Nat)
    (arrivals : List (Nat × Nat)) :
    { actor with
      arrivals := arrivals
      automationInflight := actor.automationInflight.insert clientId requests
    }.inflight =
      Function.update actor.inflight clientId requests := by
  funext query
  unfold inflight
  rw [OrderedMap.find?_insert, Function.update_apply]
  split_ifs <;> rfl

/-- A request is admitted under an ID that was not in flight. -/
theorem Booked.accept
    {actor : AutomationActor}
    (booked : Booked actor [])
    {target : ReplyTarget}
    (present : target.clientId ∈ actor.connected)
    (fresh : target.requestId ∉ actor.inflight target.clientId)
    (arrivals : List (Nat × Nat)) :
    Booked
      { actor with
        arrivals := arrivals
        automationInflight := actor.automationInflight.insert target.clientId
          (insert target.requestId (actor.inflight target.clientId)) }
      [target] := by
  have inflight := inflight_insert actor target.clientId
    (insert target.requestId (actor.inflight target.clientId)) arrivals
  exact
    { distinct := by
        intro clientId connected
        have before := booked.distinct clientId connected
        by_cases own : target.clientId = clientId
        · subst own
          rw [List.singleton_append, idsOf_cons_self, List.nodup_cons]
          exact ⟨fun listed =>
            fresh ((booked.booked _ connected _).mpr listed), before⟩
        · rw [List.singleton_append, idsOf_cons_of_ne own]
          exact before
      booked := by
        intro clientId connected id
        have before := booked.booked clientId connected id
        rw [inflight]
        by_cases own : clientId = target.clientId
        · subst own
          rw [Function.update_self, Finset.mem_insert, before,
            List.singleton_append, idsOf_cons_self, List.mem_cons]
          rfl
        · rw [Function.update_of_ne own, before, List.singleton_append,
            idsOf_cons_of_ne (Ne.symm own)]
          rfl
      pending := booked.pending
      asking := by
        intro other here
        rcases List.mem_cons.mp here with same | old
        · rw [same]
          exact present
        · exact booked.asking other old
      vacated := by
        intro clientId absent
        have other : clientId ≠ target.clientId := fun same =>
          absent (same ▸ present)
        rw [inflight, Function.update_of_ne other]
        exact booked.vacated clientId absent
      left := booked.left
      issued := booked.issued
      numbered := booked.numbered }

/-- A request that is refused leaves at most an entry without requests. -/
theorem Booked.refuse
    (booked : Booked actor opened)
    (clientId : Nat)
    (arrivals : List (Nat × Nat)) :
    Booked
      { actor with
        arrivals := arrivals
        automationInflight := actor.automationInflight.insert clientId
          (actor.inflight clientId) }
      opened := by
  refine booked.move ?_ rfl rfl ⟨rfl, rfl, rfl⟩ (.refl _)
  rw [inflight_insert, Function.update_eq_self]

/-- A connection thread starts under a number of its own. -/
theorem Booked.connect
    (booked : Booked actor []) :
    Booked
      { actor with
        nextClient := actor.nextClient + 1
        connected := insert actor.nextClient actor.connected }
      [] := by
  have absent : actor.nextClient ∉ actor.connected := fun connected =>
    lt_irrefl _ (booked.issued _ connected)
  have numbered : ∀ target ∈ actor.held, target.clientId < actor.nextClient := by
    intro target here
    rcases List.mem_append.mp here with waiting | working
    · exact booked.issued _ (booked.asking target waiting)
    · exact booked.numbered target (List.mem_append_left _ working)
  have nothing : ∀ targets : List ReplyTarget,
      (∀ target ∈ targets, target.clientId < actor.nextClient) →
      idsOf actor.nextClient targets = [] := by
    intro targets below
    rw [List.eq_nil_iff_forall_not_mem]
    intro id listed
    obtain ⟨target, here, own, -⟩ := mem_idsOf.mp listed
    exact absurd (below target here) (own ▸ lt_irrefl _)
  exact
    { distinct := by
        intro clientId connected
        rcases Finset.mem_insert.mp connected with new | old
        · rw [new]
          exact (nothing _ numbered).symm ▸ List.nodup_nil
        · exact booked.distinct clientId old
      booked := by
        intro clientId connected id
        rcases Finset.mem_insert.mp connected with new | old
        · rw [new]
          have idle := (booked.vacated _ absent).1
          have empty := nothing _ numbered
          exact iff_of_false
            (fun here => Finset.notMem_empty id (idle ▸ here))
            (fun here => List.not_mem_nil (empty ▸ here))
        · exact booked.booked clientId old id
      pending := by
        intro clientId connected id
        rcases Finset.mem_insert.mp connected with new | old
        · rw [new]
          have empty := nothing actor.workers fun target here =>
            booked.numbered target (List.mem_append_left _ here)
          exact iff_of_false ((booked.vacated _ absent).2 id)
            (fun here => List.not_mem_nil (empty ▸ here))
        · exact booked.pending clientId old id
      asking := fun target here => Finset.mem_insert_of_mem
        (booked.asking target here)
      vacated := fun clientId gone => booked.vacated clientId fun connected =>
        gone (Finset.mem_insert_of_mem connected)
      left := by
        intro target here connected
        rcases Finset.mem_insert.mp connected with new | old
        · have below := booked.numbered target (List.mem_append_right _ here)
          exact absurd below (new ▸ lt_irrefl _)
        · exact booked.left target here old
      issued := by
        intro clientId connected
        rcases Finset.mem_insert.mp connected with new | old
        · rw [new]
          exact Nat.lt_succ_self _
        · exact Nat.lt_succ_of_lt (booked.issued clientId old)
      numbered := fun target here =>
        Nat.lt_succ_of_lt (booked.numbered target here) }

/-- What a client that leaves had asked is forgotten. -/
theorem Booked.disconnect
    (booked : Booked actor [])
    (present : clientId ∈ actor.connected) :
    Booked (actor.disconnected clientId) [] := by
  have waiting : (actor.disconnected clientId).automationWaiters.map
      Waiter.reply =
      (actor.automationWaiters.map Waiter.reply).filter fun target =>
        target.clientId ≠ clientId := by
    rw [List.filter_map]
    rfl
  have ids : ∀ other, other ≠ clientId →
      idsOf other (actor.disconnected clientId).held =
        idsOf other actor.held := by
    intro other differs
    unfold held
    rw [waiting, idsOf_append, idsOf_append, idsOf_filter_of_ne differs]
    rfl
  have inflight : ∀ other, (actor.disconnected clientId).inflight other =
      if other = clientId then ∅ else actor.inflight other := by
    intro other
    unfold AutomationActor.inflight disconnected
    rw [OrderedMap.find?_erase]
    split_ifs <;> rfl
  exact
    { distinct := by
        intro other connected
        obtain ⟨differs, connected⟩ := Finset.mem_erase.mp connected
        rw [List.nil_append, ids other differs]
        exact booked.distinct other connected
      booked := by
        intro other connected id
        obtain ⟨differs, connected⟩ := Finset.mem_erase.mp connected
        rw [List.nil_append, ids other differs, inflight, if_neg differs]
        exact booked.booked other connected id
      pending := by
        intro other connected id
        obtain ⟨differs, connected⟩ := Finset.mem_erase.mp connected
        unfold disconnected
        rw [Finset.mem_filter, booked.pending other connected id]
        exact and_iff_left differs
      asking := by
        intro target here
        rw [List.nil_append, waiting, List.mem_filter] at here
        exact Finset.mem_erase.mpr ⟨of_decide_eq_true here.2,
          booked.asking target here.1⟩
      vacated := by
        intro other absent
        rw [inflight]
        by_cases own : other = clientId
        · rw [if_pos own]
          refine ⟨rfl, fun id listed => ?_⟩
          exact (Finset.mem_filter.mp listed).2 own
        · have before := booked.vacated other fun connected =>
            absent (Finset.mem_erase.mpr ⟨own, connected⟩)
          rw [if_neg own]
          exact ⟨before.1, fun id listed =>
            before.2 id (Finset.mem_of_mem_filter _ listed)⟩
      left := by
        intro target here connected
        obtain ⟨differs, connected⟩ := Finset.mem_erase.mp connected
        rcases List.mem_append.mp here with new | old
        · obtain ⟨waiter, listed, same⟩ := List.mem_map.mp new
          rw [← same] at differs
          exact differs (of_decide_eq_true (List.mem_filter.mp listed).2)
        · exact booked.left target old connected
      issued := fun other connected =>
        booked.issued other (Finset.mem_of_mem_erase connected)
      numbered := by
        intro target here
        rcases List.mem_append.mp here with working | gone
        · exact booked.numbered target (List.mem_append_left _ working)
        · rcases List.mem_append.mp gone with new | old
          · obtain ⟨waiter, listed, same⟩ := List.mem_map.mp new
            have own := of_decide_eq_true (List.mem_filter.mp listed).2
            rw [← same, own]
            exact booked.issued clientId present
          · exact booked.numbered target (List.mem_append_right _ old) }

/-! ## Operations -/

structure Kept
    (actor : AutomationActor)
    (opened : List ReplyTarget) : Prop where
  accounted : Accounted actor opened
  books : Booked actor opened

/-- What is history stays history; only a full queue drops responses. -/
structure Proceeds (before after : AutomationActor) : Prop where
  arrivals : before.arrivals <+: after.arrivals
  asked : ∀ request clientId id : Nat,
    after.arrivals[request]? = some (clientId, id) →
      before.arrivals[request]? = some (clientId, id) ∨
        clientId ∈ before.connected
  answered : before.answered <:+ after.answered
  dropped : before.dropped <:+ after.dropped
  discarded : after.discarded = before.discarded
  workers : before.workers <+: after.workers
  connected : after.connected = before.connected
  queue : before.responses.length ≤ after.responses.length
  room : after.dropped = before.dropped ∨
    automationResponseQueue ≤ after.responses.length

theorem Proceeds.refl (actor : AutomationActor) : Proceeds actor actor where
  arrivals := List.prefix_rfl
  asked := fun _ _ _ asked => .inl asked
  answered := List.suffix_rfl
  dropped := List.suffix_rfl
  discarded := rfl
  workers := List.prefix_rfl
  connected := rfl
  queue := le_refl _
  room := .inl rfl

theorem Proceeds.trans
    {before middle after : AutomationActor}
    (first : Proceeds before middle)
    (second : Proceeds middle after) : Proceeds before after where
  arrivals := first.arrivals.trans second.arrivals
  asked := by
    intro request clientId id asked
    rcases second.asked request clientId id asked with old | present
    · exact first.asked request clientId id old
    · exact .inr (first.connected ▸ present)
  answered := first.answered.trans second.answered
  dropped := first.dropped.trans second.dropped
  discarded := second.discarded.trans first.discarded
  workers := first.workers.trans second.workers
  connected := second.connected.trans first.connected
  queue := first.queue.trans second.queue
  room := by
    rcases second.room with same | full
    · rcases first.room with before | full
      · exact .inl (same.trans before)
      · exact .inr (full.trans second.queue)
    · exact .inr full

/-- An operation that finds some requests open and leaves others. -/
structure Serves
    (before : AutomationActor)
    (opened : List ReplyTarget)
    (after : AutomationActor)
    (others : List ReplyTarget) : Prop where
  keeps : Kept before opened → Kept after others
  proceeds : Proceeds before after

theorem Serves.trans
    {before middle after : AutomationActor}
    {opened between others : List ReplyTarget}
    (first : Serves before opened middle between)
    (second : Serves middle between after others) :
    Serves before opened after others where
  keeps := fun kept => second.keeps (first.keeps kept)
  proceeds := first.proceeds.trans second.proceeds

section

variable (actor : AutomationActor)

/-- An operation on panes. -/
theorem Serves.panes
    (opened : List ReplyTarget)
    (panes : OrderedMap PaneId Pane)
    (exitTombstones : List (PaneId × Option PtyExitStatus)) :
    Serves actor opened
      { actor with
        panes := panes
        exitTombstones := exitTombstones }
      opened where
  keeps := fun kept =>
    { accounted := kept.accounted.move rfl (.refl _) kept.accounted.labelled
        kept.accounted.cancels
      books := kept.books.move rfl rfl rfl ⟨rfl, rfl, rfl⟩ (.refl _) }
  proceeds := { Proceeds.refl actor with }

theorem Proceeds.send
    (target : ReplyTarget)
    (result : AutomationResult) :
    Proceeds actor (actor.sendAutomationResponse target result) := by
  unfold sendAutomationResponse
  dsimp only
  split
  · exact
      { Proceeds.refl actor with
        answered := List.suffix_cons _ _
        queue := by simp
        room := .inl rfl }
  · rename_i full
    exact
      { Proceeds.refl actor with
        dropped := List.suffix_cons _ _
        room := .inr (Nat.le_of_not_lt full) }

theorem Proceeds.finish
    (clientId requestId : Nat) :
    Proceeds actor (actor.finishAutomationRequest clientId requestId) := by
  obtain ⟨requests, finished⟩ := finishAutomationRequest_eq actor clientId
    requestId
  rw [finished]
  exact { Proceeds.refl actor with }

theorem Proceeds.reply
    (target : ReplyTarget)
    (result : AutomationResult) :
    Proceeds actor (actor.replyAutomation target result) :=
  (Proceeds.finish actor _ _).trans (Proceeds.send _ target result)

end

theorem Accounted.finish
    (accounted : Accounted actor opened)
    (clientId requestId : Nat) :
    Accounted (actor.finishAutomationRequest clientId requestId) opened := by
  obtain ⟨requests, finished⟩ := finishAutomationRequest_eq actor clientId
    requestId
  rw [finished]
  exact accounted.move rfl (.refl _) accounted.labelled accounted.cancels

/-- A reply ends the request it is for. -/
theorem Serves.reply
    (actor : AutomationActor)
    (target : ReplyTarget)
    (opened : List ReplyTarget)
    (result : AutomationResult) :
    Serves actor (target :: opened) (actor.replyAutomation target result)
      opened where
  keeps := fun kept =>
    { accounted := (kept.accounted.finish _ _).send result
      books := kept.books.finish.send target result }
  proceeds := .reply actor target result

/-- A waiter takes the request that is worked on. -/
theorem Serves.push
    (actor : AutomationActor)
    (waiter : Waiter)
    (opened : List ReplyTarget) :
    Serves actor (waiter.reply :: opened)
      { actor with automationWaiters := actor.automationWaiters ++ [waiter] }
      opened where
  keeps := fun kept =>
    { accounted := by
        refine kept.accounted.move rfl ?_ kept.accounted.labelled
          kept.accounted.cancels
        have further := @List.perm_middle _ waiter.reply
          (opened ++ (actor.answered.map AutomationResponseJob.target ++
            (actor.dropped ++ actor.automationWaiters.map Waiter.reply)))
          (actor.workers ++ actor.discarded)
        simpa only [targets, List.map_append, List.map_cons, List.map_nil,
          List.append_assoc, List.cons_append, List.nil_append] using further
      books := by
        refine kept.books.move rfl rfl rfl ⟨rfl, rfl, rfl⟩ ?_
        rw [List.map_append, ← List.append_assoc]
        exact List.perm_append_singleton _ _ }
  proceeds := { Proceeds.refl actor with }

/-- All waiters are taken out to be looked at. -/
theorem Serves.take
    (actor : AutomationActor)
    (opened : List ReplyTarget) :
    Serves actor opened { actor with automationWaiters := [] }
      (actor.automationWaiters.map Waiter.reply ++ opened) where
  keeps := fun kept =>
    { accounted := by
        refine kept.accounted.move rfl ?_ kept.accounted.labelled
          kept.accounted.cancels
        have further := List.perm_append_comm_assoc
          (actor.automationWaiters.map Waiter.reply)
          (opened ++ (actor.answered.map AutomationResponseJob.target ++
            actor.dropped))
          (actor.workers ++ actor.discarded)
        simpa only [targets, List.map_nil, List.append_nil,
          List.append_assoc] using further
      books := by
        refine kept.books.move rfl rfl rfl ⟨rfl, rfl, rfl⟩ ?_
        rw [List.map_nil, List.append_nil]
        exact List.perm_append_comm }
  proceeds := { Proceeds.refl actor with }

/-- A loop over waiters that answers each or puts it back. -/
theorem Serves.loop
    {turn : AutomationActor → Waiter → AutomationActor}
    (turns : ∀ actor waiter opened,
      Serves actor (waiter.reply :: opened) (turn actor waiter) opened)
    (waiters : List Waiter)
    (actor : AutomationActor)
    (opened : List ReplyTarget) :
    Serves actor (waiters.map Waiter.reply ++ opened)
      (waiters.foldl turn actor) opened := by
  induction waiters generalizing actor with
  | nil => exact ⟨id, .refl actor⟩
  | cons waiter rest ih =>
      exact (turns actor waiter _).trans (ih _)

section

variable (actor : AutomationActor)

theorem serves_checkAutomationWaiters
    (outside : Outside)
    (now : Nat)
    (opened : List ReplyTarget) :
    Serves actor opened (actor.checkAutomationWaiters outside now) opened := by
  refine (Serves.take actor opened).trans (Serves.loop ?_ _ _ opened)
  intro before waiter others
  unfold checkWaiter
  split
  · exact .reply before waiter.reply others _
  · split
    · exact .reply before waiter.reply others _
    · exact .push before waiter others

theorem serves_completeExitWaiters
    (paneId : PaneId)
    (status : Option PtyExitStatus)
    (opened : List ReplyTarget) :
    Serves actor opened (actor.completeExitWaiters paneId status) opened := by
  refine (Serves.take actor opened).trans (Serves.loop ?_ _ _ opened)
  intro before waiter others
  unfold completeExitWaiter
  split
  · exact .reply before waiter.reply others _
  · exact .push before waiter others

theorem serves_addAutomationWaiter
    (outside : Outside)
    (now : Nat)
    (waiter : Waiter)
    (opened : List ReplyTarget) :
    Serves actor (waiter.reply :: opened)
      (actor.addAutomationWaiter outside now waiter) opened := by
  unfold addAutomationWaiter
  split
  · exact .reply actor waiter.reply opened _
  · exact (Serves.push actor waiter opened).trans
      (serves_checkAutomationWaiters _ outside now opened)

/-- A worker takes the request that is worked on. -/
theorem Serves.work
    (target : ReplyTarget)
    (opened : List ReplyTarget) :
    Serves actor (target :: opened)
      { actor with
        pendingActorWork := insert (target.clientId, target.requestId)
          actor.pendingActorWork
        workers := actor.workers ++ [target] }
      opened where
  keeps := fun kept =>
    { accounted := by
        refine kept.accounted.move rfl ?_ kept.accounted.labelled
          kept.accounted.cancels
        have further := @List.perm_middle _ target
          (opened ++ (actor.answered.map AutomationResponseJob.target ++
            (actor.dropped ++ (actor.automationWaiters.map Waiter.reply ++
              actor.workers))))
          actor.discarded
        simpa only [targets, List.append_assoc, List.cons_append,
          List.nil_append] using further
      books := kept.books.work }
  proceeds := { Proceeds.refl actor with workers := List.prefix_append _ _ }

theorem serves_automationInput
    (outside : Outside)
    (target : ReplyTarget)
    (paneId : PaneId)
    (length : Nat)
    (opened : List ReplyTarget) :
    Serves actor (target :: opened)
      (actor.automationInput outside target paneId length) opened := by
  unfold automationInput
  split
  · exact .reply actor target opened _
  · split
    · exact .reply actor target opened _
    · rename_i registered admitted
      unfold registerPendingActorWork at admitted
      dsimp only at admitted
      split at admitted
      · cases admitted
      · split at admitted
        · cases admitted
        · rename_i fresh
          cases admitted
          -- What was registered is taken back before a refusal is answered.
          have undone : completePendingActorWork
              { actor with
                pendingActorWork := insert
                  (target.clientId, target.requestId) actor.pendingActorWork }
              target = actor := by
            unfold completePendingActorWork
            dsimp only
            rw [Finset.erase_insert fresh]
          split
          · rw [undone]
            exact .reply actor target opened _
          · split
            · rw [undone]
              exact .reply actor target opened _
            · exact .work actor target opened

theorem serves_settle
    (outside : Outside)
    (now : Nat)
    (target : ReplyTarget)
    (outcome : Outcome)
    (opened : List ReplyTarget) :
    Serves actor (target :: opened)
      (actor.settle outside now target outcome) opened := by
  cases outcome with
  | reply result => exact .reply actor target opened result
  | wait paneId timeoutMs kind =>
      exact serves_addAutomationWaiter actor outside now
        { reply := target
          paneId := paneId
          deadline := deadline now timeoutMs
          kind := kind }
        opened
  | input paneId length =>
      exact serves_automationInput actor outside target paneId length opened

end

/-- A method changes panes only. -/
theorem runMethod_panes
    {method : AutomationMethod}
    {done : AutomationActor × Outcome}
    (ran : actor.runMethod outside paneId method = some done) :
    ∃ panes, done.1 = { actor with panes := panes } := by
  unfold runMethod at ran
  split at ran
  · cases ran
    exact ⟨_, rfl⟩
  · cases ran
    exact ⟨_, rfl⟩
  · split at ran
    · cases ran
      exact ⟨_, rfl⟩
    · cases ran
      exact ⟨_, rfl⟩
  · cases ran
    exact ⟨_, rfl⟩
  · obtain ⟨pane, -, same⟩ := Option.map_eq_some_iff.mp ran
    rw [← same]
    split
    · exact ⟨_, rfl⟩
    · exact ⟨_, rfl⟩
  · obtain ⟨pane, -, same⟩ := Option.map_eq_some_iff.mp ran
    rw [← same]
    split
    · exact ⟨_, rfl⟩
    · exact ⟨_, rfl⟩
  · obtain ⟨pane, -, same⟩ := Option.map_eq_some_iff.mp ran
    rw [← same]
    exact ⟨_, rfl⟩
  · obtain ⟨pane, -, found⟩ := Option.bind_eq_some_iff.mp ran
    obtain ⟨shown, -, same⟩ := Option.map_eq_some_iff.mp found
    rw [← same]
    exact ⟨_, rfl⟩

theorem serves_runRequest
    (ran : actor.runRequest outside now target request = some after)
    (opened : List ReplyTarget) :
    Serves actor (target :: opened) after opened := by
  unfold runRequest at ran
  split at ran
  · cases ran
    exact .reply actor target opened _
  · split at ran
    · cases ran
      exact .reply actor target opened _
    · obtain ⟨done, finished, same⟩ := Option.map_eq_some_iff.mp ran
      obtain ⟨panes, changed⟩ := runMethod_panes finished
      rw [← same]
      refine Serves.trans ?_
        (serves_settle done.1 outside now target done.2 opened)
      rw [changed]
      exact .panes actor (target :: opened) panes actor.exitTombstones

/-- A request of a connected client arrives. -/
theorem Proceeds.arrive
    (connected : clientId ∈ actor.connected)
    (requestId : Nat)
    (inflight : OrderedMap Nat (Finset Nat)) :
    Proceeds actor
      { actor with
        arrivals := actor.arrivals ++ [(clientId, requestId)]
        automationInflight := inflight } :=
  { Proceeds.refl actor with
    arrivals := List.prefix_append _ _
    asked := by
      intro request other id asked
      rw [List.getElem?_append] at asked
      split at asked
      · exact .inl asked
      · have last := List.mem_singleton.mp (List.mem_of_getElem? asked)
        injection last with own
        exact .inr (own ▸ connected) }

/-- What a request of a connected client does. -/
theorem serves_handleAutomation
    (connected : clientId ∈ actor.connected)
    (handled :
      actor.handleAutomation outside now clientId request = some after) :
    Serves actor [] after [] := by
  unfold handleAutomation at handled
  dsimp only at handled
  split at handled
  · cases handled
    refine ⟨fun kept => ⟨?_, ?_⟩, Proceeds.trans ?_ (Proceeds.send _ _ _)⟩
    · exact (kept.accounted.arrive clientId request.id _).send _
    · exact (kept.books.refuse clientId _).send _ _
    · exact .arrive connected request.id _
  · rename_i fresh
    split at handled
    · cases handled
      refine ⟨fun kept => ⟨?_, ?_⟩, ?_⟩
      · exact ((kept.accounted.arrive clientId request.id _).finish _ _).send _
      · refine ((kept.books.refuse clientId _).finishIdle ?_).send _ _
        rw [inflight_insert, Function.update_eq_self]
        exact fresh
      · refine Proceeds.trans ?_
          ((Proceeds.finish _ _ _).trans (Proceeds.send _ _ _))
        exact .arrive connected request.id _
    · refine Serves.trans ⟨fun kept => ⟨?_, ?_⟩, ?_⟩
        (serves_runRequest handled [])
      · exact kept.accounted.arrive clientId request.id _
      · exact @Booked.accept actor kept.books
          { clientId := clientId
            requestId := request.id
            request := actor.arrivals.length }
          connected fresh _
      · exact .arrive connected request.id _

/-! ## Events -/

theorem kept_disconnected
    (kept : Kept actor [])
    (present : clientId ∈ actor.connected) :
    Kept (actor.disconnected clientId) [] where
  accounted := by
    refine kept.accounted.move rfl ?_ kept.accounted.labelled
      kept.accounted.cancels
    -- The waiters are those that stay and those that go.
    have split : ((actor.automationWaiters.filter fun waiter =>
          waiter.reply.clientId = clientId) ++
        (actor.automationWaiters.filter fun waiter =>
          waiter.reply.clientId ≠ clientId)).Perm actor.automationWaiters := by
      have parts := List.filter_append_perm
        (fun waiter : Waiter => decide (waiter.reply.clientId = clientId))
        actor.automationWaiters
      simpa only [decide_not] using parts
    have replies := split.map Waiter.reply
    rw [List.map_append] at replies
    simp only [targets, disconnected, List.nil_append, List.append_assoc]
    refine List.Perm.append_left _ (List.Perm.append_left _ ?_)
    have moved := List.perm_append_comm_assoc
      ((actor.automationWaiters.filter fun waiter =>
        waiter.reply.clientId = clientId).map Waiter.reply)
      ((actor.automationWaiters.filter fun waiter =>
        waiter.reply.clientId ≠ clientId).map Waiter.reply ++ actor.workers)
      actor.discarded
    simp only [List.append_assoc] at moved
    refine moved.symm.trans ?_
    rw [← List.append_assoc]
    exact replies.append_right _
  books := kept.books.disconnect present

/-- A completion answers the request of its worker. -/
theorem kept_automationInputComplete
    (kept : Kept actor [])
    {rest : List ReplyTarget}
    (taken : (target :: rest).Perm actor.workers)
    (result : Except String Unit) :
    Kept ({ actor with workers := rest }.automationInputComplete target result)
      [] where
  accounted := by
    have opened : Accounted
        ({ actor with workers := rest }.completePendingActorWork target)
        [target] := by
      refine kept.accounted.move rfl ?_ kept.accounted.labelled
        kept.accounted.cancels
      have moved := (@List.perm_middle _ target
        (actor.answered.map AutomationResponseJob.target ++
          (actor.dropped ++ actor.automationWaiters.map Waiter.reply))
        (rest ++ actor.discarded)).symm
      refine List.Perm.trans ?_ (List.Perm.trans moved ?_)
      · simp only [targets, completePendingActorWork, List.append_assoc,
          List.singleton_append]
        exact .refl _
      · simp only [targets, List.nil_append, List.append_assoc,
          ← List.cons_append]
        exact (((taken.append_right _).append_left _).append_left _
          ).append_left _
    exact (opened.finish _ _).send _
  books := by
    have released := kept.books.release taken
    by_cases present : target.clientId ∈ actor.connected
    · exact (released.1 present).finish.send _ _
    · refine ((released.2 present).finishIdle ?_).send _ _
      have idle := (kept.books.vacated _ present).1
      exact fun listed => Finset.notMem_empty _ (idle ▸ listed)

theorem kept_connect
    (kept : Kept actor []) :
    Kept
      { actor with
        nextClient := actor.nextClient + 1
        connected := insert actor.nextClient actor.connected }
      [] where
  accounted := kept.accounted.move rfl (.refl _) kept.accounted.labelled
    kept.accounted.cancels
  books := kept.books.connect

theorem serves_ptyExit
    (actor : AutomationActor)
    (outside : Outside)
    (paneId : PaneId)
    (status : Option PtyExitStatus) :
    Serves actor [] (actor.ptyExit outside paneId status) [] := by
  unfold ptyExit closePane
  exact (serves_completeExitWaiters actor paneId status []).trans
    (.panes _ [] _ _)

/-- What one event does to the history. -/
structure Onward
    (before : AutomationActor)
    (event : AutomationEvent)
    (after : AutomationActor) : Prop where
  arrivals : before.arrivals <+: after.arrivals
  asked : ∀ request clientId id : Nat,
    after.arrivals[request]? = some (clientId, id) →
      before.arrivals[request]? = some (clientId, id) ∨
        clientId ∈ before.connected
  answered : before.answered <:+ after.answered
  dropped : before.dropped <:+ after.dropped
  discarded : before.discarded <:+ after.discarded
  workers : ∀ target ∈ before.workers, target ∈ after.workers ∨
    ∃ worker result, event = .inputComplete worker result ∧
      before.workers[worker]? = some target
  room : after.dropped = before.dropped ∨
    automationResponseQueue ≤ after.responses.length

theorem Proceeds.onward
    (proceeds : Proceeds before after)
    (event : AutomationEvent) : Onward before event after where
  arrivals := proceeds.arrivals
  asked := proceeds.asked
  answered := proceeds.answered
  dropped := proceeds.dropped
  discarded := by
    rw [proceeds.discarded]
  workers := fun _ here => .inl (proceeds.workers.subset here)
  room := proceeds.room

variable {unicode : Terminal.UnicodeWidth} {keys : String → Option String}

/-- Every event that can happen keeps the books. -/
theorem kept_automationStep
    {event : AutomationEvent}
    (stepped : automationStep unicode keys before event = some after) :
    (Kept before [] → Kept after []) ∧ Onward before event after := by
  cases event with
  | connect =>
      cases stepped
      exact ⟨kept_connect, ({ Proceeds.refl before with } :
        Proceeds before before).onward _ |> fun onward => { onward with }⟩
  | request clientId request outside now =>
      simp only [automationStep] at stepped
      split at stepped
      · rename_i connected
        have serves := serves_handleAutomation connected stepped
        exact ⟨serves.keeps, serves.proceeds.onward _⟩
      · cases stepped
  | disconnected clientId =>
      simp only [automationStep] at stepped
      split at stepped
      · rename_i connected
        cases stepped
        exact ⟨fun kept => kept_disconnected kept connected,
          { (Proceeds.refl before).onward _ with
            discarded := List.suffix_append _ _ }⟩
      · cases stepped
  | inputComplete worker result =>
      obtain ⟨target, found, same⟩ := Option.map_eq_some_iff.mp stepped
      rw [← same]
      obtain ⟨inside, there⟩ := List.getElem?_eq_some_iff.mp found
      have taken : (target :: before.workers.eraseIdx worker).Perm
          before.workers :=
        there ▸ List.getElem_cons_eraseIdx_perm inside
      refine ⟨fun kept => kept_automationInputComplete kept taken result, ?_⟩
      have proceeds : Proceeds
          ({ before with
            workers := before.workers.eraseIdx worker
          }.completePendingActorWork target)
          ({ before with
            workers := before.workers.eraseIdx worker
          }.automationInputComplete target result) :=
        .reply _ target _
      exact
        { arrivals := proceeds.arrivals
          asked := proceeds.asked
          answered := proceeds.answered
          dropped := proceeds.dropped
          discarded := by
            rw [proceeds.discarded]
            exact List.suffix_rfl
          room := proceeds.room
          workers := by
            intro other here
            rcases List.mem_cons.mp (taken.mem_iff.mpr here) with own | rest
            · exact .inr ⟨worker, result, rfl, own ▸ found⟩
            · exact .inl (proceeds.workers.subset rest) }
  | checkWaiters outside now =>
      cases stepped
      have serves := serves_checkAutomationWaiters before outside now []
      exact ⟨serves.keeps, serves.proceeds.onward _⟩
  | ptyExit paneId status outside =>
      cases stepped
      have serves := serves_ptyExit before outside paneId status
      exact ⟨serves.keeps, serves.proceeds.onward _⟩
  | closePane paneId outside =>
      cases stepped
      have serves := Serves.panes before []
        (outside.relayout (before.panes.erase paneId)) before.exitTombstones
      exact ⟨serves.keeps, serves.proceeds.onward _⟩
  | openPane paneId scrollbackLines now outside =>
      cases stepped
      have serves := Serves.panes before []
        (outside.relayout
          (before.panes.insert paneId (.spawned scrollbackLines now)))
        before.exitTombstones
      exact ⟨serves.keeps, serves.proceeds.onward _⟩
  | screen paneId event =>
      cases stepped
      have serves := Serves.panes before []
        (before.panes.modify paneId fun pane =>
          paneStep unicode keys pane event)
        before.exitTombstones
      exact ⟨serves.keeps, serves.proceeds.onward _⟩
  | respond =>
      simp only [automationStep] at stepped
      split at stepped
      · cases stepped
      · rename_i job rest queued
        cases stepped
        refine ⟨fun kept => ⟨?_, ?_⟩, ?_⟩
        · exact kept.accounted.move rfl (.refl _) kept.accounted.labelled
            kept.accounted.cancels
        · exact kept.books.move rfl rfl rfl ⟨rfl, rfl, rfl⟩ (.refl _)
        · exact { (Proceeds.refl before).onward .respond with room := .inl rfl }

theorem kept_start :
    Kept .start [] where
  accounted :=
    { once := fun _ => rfl
      known := fun _ here => nomatch here
      labelled := fun _ here => nomatch here
      cancels := fun _ here => nomatch here }
  books :=
    { distinct := fun _ here => absurd here (Finset.notMem_empty _)
      booked := fun _ here => absurd here (Finset.notMem_empty _)
      pending := fun _ here => absurd here (Finset.notMem_empty _)
      asking := fun _ here => nomatch here
      vacated := fun _ _ => ⟨rfl, fun _ => Finset.notMem_empty _⟩
      left := fun _ here => nomatch here
      issued := fun _ here => absurd here (Finset.notMem_empty _)
      numbered := fun _ here => nomatch here }

theorem kept_reachable
    (reached : (automationMachine unicode keys).Reachable
      (fun _ _ => True) actor) :
    Kept actor [] := by
  have preserved : (automationMachine unicode keys).Preserved
      (fun _ _ => True) fun actor => Kept actor [] :=
    fun _ _ _ kept _ stepped => (kept_automationStep stepped).1 kept
  refine reached.invariant ?_ preserved
  intro start initial
  rw [initial]
  exact kept_start

/-! ## Nothing aborts -/

theorem resolveAutomationPane_mem
    {requested : Option PaneId}
    {allowFocused : Bool}
    {paneId : PaneId}
    (resolved : actor.resolveAutomationPane outside requested allowFocused =
      .ok paneId) :
    paneId ∈ actor.panes := by
  unfold resolveAutomationPane at resolved
  split at resolved
  · split at resolved
    · rename_i present
      cases resolved
      exact present
    · cases resolved
  · split at resolved
    · split at resolved
      · rename_i pane focused
        cases resolved
        exact of_decide_eq_true (Option.filter_eq_some_iff.mp focused).2
      · cases resolved
    · cases resolved

/-- The pane of a method that needs one exists, unless the request waits for
an exit. -/
theorem exists_targetPane
    (target : actor.targetPane outside request = .ok paneId)
    (needs : request.method.needsPane = true) :
    (∃ timeoutMs, request.method = .waitExit timeoutMs) ∨
      ∃ pane ∈ actor.panes, paneId = some pane := by
  unfold targetPane at target
  rw [if_pos needs] at target
  split at target
  · rename_i waits
    unfold waitsForTombstone at waits
    split at waits
    · rename_i timeoutMs same
      exact .inl ⟨timeoutMs, same⟩
    · cases waits
  · cases resolved : actor.resolveAutomationPane outside request.paneId
        request.allowFocused with
    | error refused =>
        rw [resolved] at target
        cases target
    | ok pane =>
        rw [resolved] at target
        cases target
        exact .inr ⟨pane, resolveAutomationPane_mem resolved, rfl⟩

theorem runMethod_isSome
    (target : actor.targetPane outside request = .ok paneId) :
    (actor.runMethod outside paneId request.method).isSome := by
  by_cases needs : request.method.needsPane = true
  · rcases exists_targetPane target needs with ⟨timeoutMs, same⟩ | ⟨pane, present, same⟩
    · rw [same]
      rfl
    · obtain ⟨shown, found⟩ := Option.isSome_iff_exists.mp
        ((OrderedMap.find?_isSome_iff actor.panes pane).mpr present)
      rw [same]
      unfold runMethod
      split
      case h_3 =>
        split
        · rfl
        · rfl
      case h_8 => simp [found]
      all_goals rfl
  · cases method : request.method with
    | capabilities => rfl
    | listPanes => rfl
    | waitRendered afterSession timeoutMs =>
        simp only [runMethod]
        split
        · rfl
        · rfl
    | _ => simp [method, AutomationMethod.needsPane] at needs

theorem handleAutomation_isSome
    (actor : AutomationActor)
    (outside : Outside)
    (now clientId : Nat)
    (request : AutomationRequest) :
    (actor.handleAutomation outside now clientId request).isSome := by
  unfold handleAutomation
  dsimp only
  split
  · rfl
  · split
    · rfl
    · unfold runRequest
      split
      · rfl
      · split
        · rfl
        · rename_i paneId target
          rw [Option.isSome_map]
          exact runMethod_isSome target

/-! ## Deadlines -/

/-- What a check leaves was there before, and is not due. -/
theorem checkAutomationWaiters_waiters
    {waiter : Waiter}
    (here : waiter ∈
      (actor.checkAutomationWaiters outside now).automationWaiters) :
    waiter ∈ actor.automationWaiters ∧ now < waiter.deadline := by
  have replied : ∀ (before : AutomationActor) target result,
      (before.replyAutomation target result).automationWaiters =
        before.automationWaiters := by
    intro before target result
    unfold replyAutomation sendAutomationResponse
    obtain ⟨requests, finished⟩ := finishAutomationRequest_eq before
      target.clientId target.requestId
    rw [finished]
    dsimp only
    split
    · rfl
    · rfl
  -- By induction over the waiters that are still to be looked at.
  have loop : ∀ (waiters : List Waiter) (before : AutomationActor),
      waiter ∈ (waiters.foldl (checkWaiter outside now) before
        ).automationWaiters →
      waiter ∈ before.automationWaiters ∨
        waiter ∈ waiters ∧ now < waiter.deadline := by
    intro waiters
    induction waiters with
    | nil => exact fun before here => .inl here
    | cons first rest ih =>
        intro before here
        rcases ih _ here with turned | later
        · unfold checkWaiter at turned
          split at turned
          · rw [replied] at turned
            exact .inl turned
          · rename_i early
            split at turned
            · rw [replied] at turned
              exact .inl turned
            · rcases List.mem_append.mp turned with old | new
              · exact .inl old
              · rw [List.mem_singleton.mp new]
                exact .inr ⟨List.mem_cons_self, Nat.lt_of_not_le early⟩
        · exact .inr ⟨List.mem_cons_of_mem _ later.1, later.2⟩
  rcases loop _ _ here with nothing | listed
  · exact absurd nothing List.not_mem_nil
  · exact listed

end AutomationActor

end Automation
end Vvmux
