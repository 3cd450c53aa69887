import Vvmux.Bridge.Credits

/-!
# The outer credit is exact

While nothing about a source reaches the reader between its `SOURCE_READY` and
its registration, the source's ledger has what was granted and not reserved.
A `CREDIT` record in between makes a ledger of its own, and the registration
then refuses the source.
-/

namespace Vvmux

open Library

namespace Bridge

variable {Ledger : Type*} {ops : LedgerOps Ledger}

namespace OuterCredits

/-! ## What the reader has heard -/

/-- The worker is past a reply only after the reader has got it. -/
def Fits
    (state : OuterCredits Ledger)
    (source : Nat) :
    Stage → Prop
  | .requested request => ∀ reply ready,
      state.replies.find? request = some reply → reply.objectId = source →
        reply.body = .sourceReady ready → source ∈ state.arrived
  | .ready _ => source ∈ state.arrived
  | .refused => True
  | .failed => True
  | .live _ .none => source ∈ state.arrived
  | .live _ (.requested request) => source ∈ state.arrived ∧ ∀ reply,
      state.replies.find? request = some reply → reply.objectId = source →
        reply.body = .ok → source ∈ state.acknowledged
  | .live _ .acknowledged =>
      source ∈ state.arrived ∧ source ∈ state.acknowledged
  | .retired =>
      source ∈ state.acknowledged ∧ state.credits.find? source = none

variable {state after : OuterCredits Ledger}
  {source objectId request other : Nat} {initial : Option Credits}
  {stage : Stage}

theorem Fits.arrived
    {destruction : Destruction}
    (fits : state.Fits source (.live initial destruction)) :
    source ∈ state.arrived := by
  cases destruction with
  | none => exact fits
  | requested request => exact fits.1
  | acknowledged => exact fits.1

/-- Replies may go and more may be heard, and the ledgers of sources that are
not retired may change. -/
theorem Fits.mono
    (fits : state.Fits source stage)
    (replies : ∀ request reply, after.replies.find? request = some reply →
      state.replies.find? request = some reply)
    (arrived : ∀ other ∈ state.arrived, other ∈ after.arrived)
    (acknowledged : ∀ other ∈ state.acknowledged, other ∈ after.acknowledged)
    (credits : stage = .retired → state.credits.find? source = none →
      after.credits.find? source = none) :
    after.Fits source stage := by
  cases stage with
  | requested request =>
      intro reply ready stored object body
      exact arrived _ (fits reply ready (replies _ _ stored) object body)
  | ready ready => exact arrived _ fits
  | refused => trivial
  | failed => trivial
  | live initial destruction =>
      cases destruction with
      | none => exact arrived _ fits
      | requested request =>
          refine ⟨arrived _ fits.1, fun reply stored object body => ?_⟩
          exact acknowledged _ (fits.2 reply (replies _ _ stored) object body)
      | acknowledged => exact ⟨arrived _ fits.1, acknowledged _ fits.2⟩
  | retired => exact ⟨acknowledged _ fits.1, credits rfl fits.2⟩

structure Sound (state : OuterCredits Ledger) : Prop where
  pending : ∀ request ∈ state.pendingRequests, request ≤ state.nextRequest
  replies : ∀ request reply, state.replies.find? request = some reply →
    request ≤ state.nextRequest
  upstreams : ∀ source stage, state.sources.find? source = some stage →
    source ≤ state.nextUpstream
  fits : ∀ source stage, state.sources.find? source = some stage →
    state.Fits source stage

theorem sound_start
    (request upstream : Nat) :
    (start request upstream : OuterCredits Ledger).Sound where
  pending _ listed := by cases listed
  replies _ _ found := by simp [start] at found
  upstreams _ _ found := by simp [start] at found
  fits _ _ found := by simp [start] at found

/-- What an event may do that changes no stage. -/
theorem Sound.mono
    (sound : state.Sound)
    (nextRequest : state.nextRequest ≤ after.nextRequest)
    (pending : ∀ request ∈ after.pendingRequests,
      request ∈ state.pendingRequests ∨ request ≤ after.nextRequest)
    (nextUpstream : after.nextUpstream = state.nextUpstream)
    (replies : ∀ request reply, after.replies.find? request = some reply →
      state.replies.find? request = some reply)
    (sources : after.sources = state.sources)
    (arrived : ∀ other ∈ state.arrived, other ∈ after.arrived)
    (acknowledged : ∀ other ∈ state.acknowledged, other ∈ after.acknowledged)
    (credits : ∀ source, state.sources.find? source = some .retired →
      state.credits.find? source = none → after.credits.find? source = none) :
    after.Sound where
  pending request listed := by
    obtain old | new := pending request listed
    · exact (sound.pending request old).trans nextRequest
    · exact new
  replies request reply stored :=
    (sound.replies request reply (replies request reply stored)).trans
      nextRequest
  upstreams := by
    rw [sources, nextUpstream]
    exact sound.upstreams
  fits source stage found := by
    rw [sources] at found
    refine (sound.fits source stage found).mono replies arrived acknowledged ?_
    rintro rfl
    exact credits source found

/-- A source gets a stage that fits. -/
theorem Sound.setStage
    (sound : state.Sound)
    (known : source ≤ state.nextUpstream)
    (fits : state.Fits source stage) : (state.setStage source stage).Sound where
  pending := sound.pending
  replies := sound.replies
  upstreams other found? found := by
    have looked : (state.sources.insert source stage).find? other =
        some found? := found
    rw [OrderedMap.find?_insert] at looked
    split_ifs at looked with same
    · exact same ▸ known
    · exact sound.upstreams other found? looked
  fits other found? found := by
    have looked : (state.sources.insert source stage).find? other =
        some found? := found
    rw [OrderedMap.find?_insert] at looked
    have unchanged : ∀ fitting, state.Fits other fitting →
        (state.setStage source stage).Fits other fitting :=
      fun fitting fits => fits.mono (fun _ _ stored => stored)
        (fun _ heard => heard) (fun _ heard => heard)
        (fun _ gone => gone)
    split_ifs at looked with same
    · cases looked
      cases same
      exact unchanged _ fits
    · exact unchanged _ (sound.fits other found? looked)

/-! ## The reader keeps it -/

theorem Sound.routeCredit
    (sound : state.Sound)
    (unacknowledged : objectId ∉ state.acknowledged)
    (body : Option Credits) : (state.routeCredit ops objectId body).Sound := by
  have others : ∀ (ledger : Ledger) source,
      state.sources.find? source = some .retired →
        state.credits.find? source = none →
          (state.credits.insert objectId ledger).find? source = none := by
    intro ledger source retired gone
    rw [OrderedMap.find?_insert, if_neg, gone]
    rintro rfl
    exact unacknowledged (sound.fits _ _ retired).1
  unfold OuterCredits.routeCredit
  split
  · exact sound.mono le_rfl (fun _ => .inl) rfl (fun _ _ => id) rfl
      (fun _ => id) (fun _ => id) (fun _ _ => id)
  · simp only
    split
    · exact sound.mono le_rfl (fun _ => .inl) rfl (fun _ _ => id) rfl
        (fun _ => id) (fun _ => id) (others _)
    · exact sound.mono le_rfl (fun _ => .inl) rfl (fun _ _ => id) rfl
        (fun _ => id) (fun _ => id) (others _)

theorem Sound.routeSourceLost
    (sound : state.Sound)
    (objectId : Nat)
    (body : Option Nat) : (state.routeSourceLost ops objectId body).Sound := by
  unfold OuterCredits.routeSourceLost
  split
  · exact sound.mono le_rfl (fun _ => .inl) rfl (fun _ _ => id) rfl
      (fun _ => id) (fun _ => id) (fun _ _ => id)
  · rename_i sourceId
    split
    · exact sound.mono le_rfl (fun _ => .inl) rfl (fun _ _ => id) rfl
        (fun _ => id) (fun _ => id) (fun _ _ => id)
    · refine sound.mono le_rfl (fun _ => .inl) rfl (fun _ _ => id) rfl
        (fun _ => id) (fun _ => id) ?_
      intro source retired gone
      have marked : (state.credits.modify sourceId ops.markLost).find? source =
          none := by
        rw [OrderedMap.find?_modify]
        split_ifs with same
        · rw [gone]
          rfl
        · exact gone
      exact marked

/-- A reply in the store is one of before, or the one that just came. -/
theorem find?_replies_storeReply
    {reply : ControlReply}
    {stored : ControlReply}
    (found : (state.storeReply reply).replies.find? request = some stored) :
    state.replies.find? request = some stored ∨
      stored = reply ∧ request = reply.requestId ∧
        reply.requestId ∈ state.pendingRequests := by
  unfold storeReply at found
  split_ifs at found with zero abandoned pending full
  · exact .inl found
  · exact .inl found
  · exact .inl found
  · have looked : (state.replies.insert reply.requestId reply).find? request =
        some stored := found
    rw [OrderedMap.find?_insert] at looked
    split_ifs at looked with same
    · exact .inr ⟨(Option.some.inj looked).symm, same, pending⟩
    · exact .inl looked
  · exact .inl found

theorem mem_pendingRequests_storeReply
    {reply : ControlReply}
    (listed : request ∈ (state.storeReply reply).pendingRequests) :
    request ∈ state.pendingRequests := by
  unfold storeReply at listed
  split_ifs at listed
  · exact listed
  · exact listed
  · exact List.mem_of_mem_erase listed
  · exact List.mem_of_mem_erase listed
  · exact listed

/-- Storing a reply changes nothing but the replies and the requests. -/
theorem storeReply_frame
    (state : OuterCredits Ledger)
    (reply : ControlReply) :
    (state.storeReply reply).nextRequest = state.nextRequest ∧
      (state.storeReply reply).nextUpstream = state.nextUpstream ∧
      (state.storeReply reply).sources = state.sources ∧
      (state.storeReply reply).credits = state.credits ∧
      (state.storeReply reply).arrived = state.arrived ∧
      (state.storeReply reply).acknowledged = state.acknowledged ∧
      (state.storeReply reply).granted = state.granted ∧
      (state.storeReply reply).losses = state.losses ∧
      (state.storeReply reply).reserved = state.reserved := by
  unfold storeReply
  split_ifs <;> exact ⟨rfl, rfl, rfl, rfl, rfl, rfl, rfl, rfl, rfl⟩

/-- A reply that fits is heard when it comes, and stored then. -/
theorem Sound.reply
    (sound : state.Sound)
    (reply : ControlReply) :
    ((state.noteReply reply).storeReply reply).Sound := by
  obtain ⟨nextRequest, nextUpstream, sources, credits, arrived, acknowledged,
    -⟩ := (state.noteReply reply).storeReply_frame reply
  have moreArrived : ∀ other ∈ state.arrived,
      other ∈ ((state.noteReply reply).storeReply reply).arrived := by
    intro other heard
    rw [arrived]
    simp only [noteReply]
    split_ifs
    · exact List.mem_cons_of_mem _ heard
    · exact heard
  have moreAcknowledged : ∀ other ∈ state.acknowledged,
      other ∈ ((state.noteReply reply).storeReply reply).acknowledged := by
    intro other heard
    rw [acknowledged]
    simp only [noteReply]
    split_ifs
    · exact List.mem_cons_of_mem _ heard
    · exact heard
  refine ⟨?_, ?_, ?_, ?_⟩
  · intro request listed
    have old : request ∈ (state.noteReply reply).pendingRequests :=
      mem_pendingRequests_storeReply listed
    rw [nextRequest]
    exact sound.pending request old
  · intro request stored found
    rw [nextRequest]
    obtain old | ⟨-, same, pending⟩ := find?_replies_storeReply found
    · exact sound.replies request stored old
    · exact same ▸ sound.pending _ pending
  · rw [sources, nextUpstream]
    exact sound.upstreams
  · intro source stage found
    rw [sources] at found
    have fits := sound.fits source stage found
    cases stage with
    | requested request =>
        intro stored ready inStore object body
        obtain old | ⟨rfl, rfl, -⟩ := find?_replies_storeReply inStore
        · exact moreArrived _ (fits stored ready old object body)
        · cases object
          have arrives : state.arrives stored = true := by
            have looked : state.sources.find? stored.objectId =
                some (.requested stored.requestId) := found
            simp [OuterCredits.arrives, looked, body]
          rw [arrived]
          simp [noteReply, arrives]
    | ready ready => exact moreArrived _ fits
    | refused => trivial
    | failed => trivial
    | live initial destruction =>
        cases destruction with
        | none => exact moreArrived _ fits
        | requested request =>
            refine ⟨moreArrived _ fits.1, fun stored inStore object body => ?_⟩
            obtain old | ⟨rfl, rfl, -⟩ := find?_replies_storeReply inStore
            · exact moreAcknowledged _ (fits.2 stored old object body)
            · cases object
              have acknowledges : state.acknowledges stored = true := by
                have looked : state.sources.find? stored.objectId =
                    some (.live initial (.requested stored.requestId)) := found
                simp [OuterCredits.acknowledges, looked, body]
              rw [acknowledged]
              simp [noteReply, acknowledges]
        | acknowledged =>
            exact ⟨moreArrived _ fits.1, moreAcknowledged _ fits.2⟩
    | retired =>
        refine ⟨moreAcknowledged _ fits.1, ?_⟩
        rw [credits]
        exact fits.2

/-! ## The worker keeps it -/

/-- Asking takes the next request ID and changes nothing else. -/
theorem ask_eq_some_iff
    {state after : OuterCredits Ledger} :
    state.ask = some after ↔
      state.pendingRequests.length < maxPendingControlReplies ∧
        after = { state with
          nextRequest := state.nextRequest + 1
          pendingRequests :=
            (state.nextRequest + 1) :: state.pendingRequests } := by
  unfold ask
  split_ifs with full
  · simp [full]
  · rw [Option.some.injEq, eq_comm]
    exact ⟨fun same => ⟨Nat.lt_of_not_le full, same⟩, fun both => both.2⟩

theorem Sound.ask
    (sound : state.Sound)
    (asked : state.ask = some after) : after.Sound := by
  obtain ⟨-, rfl⟩ := ask_eq_some_iff.mp asked
  refine sound.mono (Nat.le_succ _) ?_ rfl (fun _ _ => id) rfl (fun _ => id)
    (fun _ => id) (fun _ _ => id)
  intro request listed
  obtain rfl | old := List.mem_cons.mp listed
  · exact .inr le_rfl
  · exact .inl old

/-- No reply to the next request is stored. -/
theorem Sound.find?_replies_next
    (sound : state.Sound) :
    state.replies.find? (state.nextRequest + 1) = none := by
  rw [Option.eq_none_iff_forall_not_mem]
  intro reply stored
  have bound := sound.replies _ reply stored
  omega

theorem Sound.create
    (sound : state.Sound)
    (created : state.create = some after) : after.Sound := by
  obtain ⟨asked, isAsked, rfl⟩ := Option.map_eq_some_iff.mp created
  have soundAsked := sound.ask isAsked
  have fresh := sound.find?_replies_next
  obtain ⟨-, rfl⟩ := ask_eq_some_iff.mp isAsked
  have counted : Sound { state with
      nextRequest := state.nextRequest + 1
      pendingRequests := (state.nextRequest + 1) :: state.pendingRequests
      nextUpstream := state.nextUpstream + 1 } := by
    refine ⟨soundAsked.pending, soundAsked.replies, ?_, ?_⟩
    · intro source stage found
      exact (soundAsked.upstreams source stage found).trans (Nat.le_succ _)
    · intro source stage found
      exact (soundAsked.fits source stage found).mono (fun _ _ => id)
        (fun _ => id) (fun _ => id) (fun _ => id)
  refine counted.setStage le_rfl ?_
  intro reply ready stored
  have looked : state.replies.find? (state.nextRequest + 1) = some reply :=
    stored
  rw [fresh] at looked
  cases looked

theorem Sound.destroy
    (sound : state.Sound)
    (found : state.sources.find? source = some (.live initial .none))
    (destroyed : state.destroy source initial = some after) : after.Sound := by
  obtain ⟨asked, isAsked, rfl⟩ := Option.map_eq_some_iff.mp destroyed
  have soundAsked := sound.ask isAsked
  have fresh := sound.find?_replies_next
  obtain ⟨-, rfl⟩ := ask_eq_some_iff.mp isAsked
  refine soundAsked.setStage (sound.upstreams _ _ found)
    ⟨sound.fits _ _ found, ?_⟩
  intro reply stored
  have looked : state.replies.find? (state.nextRequest + 1) = some reply :=
    stored
  rw [fresh] at looked
  cases looked

/-- Waiting changes nothing but the replies and the requests, and it takes
replies that were stored. -/
theorem waitReply_frame
    (state : OuterCredits Ledger)
    (request : Nat)
    (late : Bool) :
    ((state.waitReply request late).1.sources = state.sources ∧
      (state.waitReply request late).1.credits = state.credits ∧
      (state.waitReply request late).1.nextUpstream = state.nextUpstream ∧
      (state.waitReply request late).1.arrived = state.arrived ∧
      (state.waitReply request late).1.acknowledged = state.acknowledged ∧
      (state.waitReply request late).1.granted = state.granted ∧
      (state.waitReply request late).1.losses = state.losses ∧
      (state.waitReply request late).1.reserved = state.reserved) ∧
      ∀ reply, (state.waitReply request late).2 = .got reply →
        state.replies.find? request = some reply := by
  unfold waitReply
  split
  · rename_i stored found
    refine ⟨⟨rfl, rfl, rfl, rfl, rfl, rfl, rfl, rfl⟩, fun reply got => ?_⟩
    cases got
    exact found
  · split_ifs <;> refine ⟨⟨rfl, rfl, rfl, rfl, rfl, rfl, rfl, rfl⟩, ?_⟩ <;>
      intro reply got <;> cases got

section

variable (sound : state.Sound)
include sound

theorem Sound.waitReply
    (request : Nat)
    (late : Bool) : (state.waitReply request late).1.Sound := by
  unfold OuterCredits.waitReply
  split
  · refine sound.mono le_rfl (fun _ => .inl) rfl ?_ rfl (fun _ => id)
      (fun _ => id) (fun _ _ => id)
    intro other reply stored
    have looked : (state.replies.erase request).find? other = some reply :=
      stored
    rw [OrderedMap.find?_erase] at looked
    split_ifs at looked
    exact looked
  · split
    · exact sound
    · split
      · exact sound.mono le_rfl
          (fun _ listed => .inl (List.mem_of_mem_erase listed)) rfl
          (fun _ _ => id) rfl (fun _ => id) (fun _ => id) (fun _ _ => id)
      · exact sound

theorem Sound.waitSourceReady
    (found : state.sources.find? source = some (.requested request))
    (late : Bool) : (state.waitSourceReady source request late).Sound := by
  obtain ⟨⟨-, -, nextUpstream, arrived, -⟩, takes⟩ :=
    state.waitReply_frame request late
  have kept := sound.waitReply request late
  have known := sound.upstreams _ _ found
  have fits := sound.fits _ _ found
  unfold OuterCredits.waitSourceReady
  split
  · rename_i after waited
    rw [waited] at kept
    exact kept
  · rename_i after waited
    rw [waited] at kept nextUpstream
    exact kept.setStage (nextUpstream ▸ known) trivial
  · rename_i after reply waited
    rw [waited] at kept nextUpstream arrived takes
    refine kept.setStage (nextUpstream ▸ known) ?_
    unfold readyStage
    split
    · rename_i ready body
      split_ifs with same
      · have heard := fits reply (some ready) (takes reply rfl) same.1 body
        have unchanged : after.arrived = state.arrived := arrived
        have still : source ∈ after.arrived := unchanged ▸ heard
        exact still
      · trivial
    · trivial

theorem Sound.registerSource
    {ready : SourceReady}
    (found : state.sources.find? source = some (.ready ready)) :
    (state.registerSource ops source ready).Sound := by
  have known := sound.upstreams _ _ found
  have fits := sound.fits _ _ found
  have inserted : Sound { state with
      credits := state.credits.insert source (ops.new ready.credits) } := by
    refine sound.mono le_rfl (fun _ => .inl) rfl (fun _ _ => id) rfl
      (fun _ => id) (fun _ => id) ?_
    intro other retired gone
    rw [OrderedMap.find?_insert, if_neg, gone]
    rintro rfl
    rw [found] at retired
    cases retired
  unfold OuterCredits.registerSource
  split_ifs
  · exact inserted.setStage known trivial
  · exact inserted.setStage known fits
  · exact sound.setStage known fits

theorem Sound.waitDestroyed
    (found : state.sources.find? source =
      some (.live initial (.requested request)))
    (late : Bool) :
    (state.waitDestroyed source initial request late).Sound := by
  obtain ⟨⟨-, -, nextUpstream, arrived, acknowledged, -⟩, takes⟩ :=
    state.waitReply_frame request late
  have kept := sound.waitReply request late
  have known := sound.upstreams _ _ found
  have fits := sound.fits _ _ found
  unfold OuterCredits.waitDestroyed
  split
  · rename_i after reply waited
    rw [waited] at kept nextUpstream arrived acknowledged takes
    split_ifs with fine
    · have heard := fits.2 reply (takes reply rfl) fine.1 fine.2
      exact kept.setStage (nextUpstream ▸ known)
        ⟨arrived ▸ fits.1, acknowledged ▸ heard⟩
    · exact kept
  · rename_i after other _ waited
    rw [waited] at kept
    exact kept

theorem Sound.retireSource
    (found : state.sources.find? source =
      some (.live initial .acknowledged)) :
    (state.retireSource source).Sound := by
  have erased : Sound
      { state with credits := state.credits.erase source } := by
    refine sound.mono le_rfl (fun _ => .inl) rfl (fun _ _ => id) rfl
      (fun _ => id) (fun _ => id) ?_
    intro other _ gone
    rw [OrderedMap.find?_erase, gone]
    split_ifs <;> rfl
  refine erased.setStage (sound.upstreams _ _ found)
    ⟨(sound.fits _ _ found).2, ?_⟩
  rw [OrderedMap.find?_erase, if_pos rfl]

theorem Sound.reserveOuterCredit
    (source bytes : Nat) :
    (state.reserveOuterCredit ops source bytes).Sound := by
  unfold OuterCredits.reserveOuterCredit
  split
  · exact sound
  · rename_i ledger found
    split_ifs
    · exact sound
    · split
      · exact sound
      · refine sound.mono le_rfl (fun _ => .inl) rfl (fun _ _ => id) rfl
          (fun _ => id) (fun _ => id) ?_
        intro other _ gone
        rw [OrderedMap.find?_insert, if_neg, gone]
        rintro rfl
        rw [found] at gone
        cases gone
    · exact sound

end

/-! ## The ledger of one source -/

/-- The worker has not come to the source's registration. -/
def unregistered (state : OuterCredits Ledger) (source : Nat) : Bool :=
  match state.sources.find? source with
  | none => true
  | some (.requested _) => true
  | some (.ready _) => true
  | some _ => false

/-- What a source's ledger has, and that the source was not refused. -/
structure Balanced
    (ops : LedgerOps Ledger)
    (state : OuterCredits Ledger)
    (source : Nat) : Prop where
  before : state.unregistered source = true →
    state.credits.find? source = none ∧
      Credits.sumFor state.granted source = 0 ∧
      Credits.sumFor state.reserved source = 0 ∧ source ∉ state.losses
  after : ∀ initial destruction,
    state.sources.find? source = some (.live (some initial) destruction) →
      ∃ ledger, state.credits.find? source = some ledger ∧
        ops.available ledger + Credits.sumFor state.reserved source =
          initial + Credits.sumFor state.granted source ∧
        (ops.isLost ledger = true ↔ source ∈ state.losses)
  accepted : state.sources.find? source ≠ some .refused

theorem balanced_start
    (request upstream source : Nat) :
    Balanced ops (start request upstream) source where
  before _ := ⟨rfl, rfl, rfl, by simp [start]⟩
  after _ _ found := by simp [start] at found
  accepted found := by simp [start] at found

/-- An event that leaves the source's stage alone needs to be seen at the
ledger of the source only. -/
theorem Balanced.ofSameStage
    (balanced : Balanced ops state source)
    (stage : after.sources.find? source = state.sources.find? source)
    (credits : after.credits.find? source = state.credits.find? source)
    (granted : Credits.sumFor after.granted source =
      Credits.sumFor state.granted source)
    (reserved : Credits.sumFor after.reserved source =
      Credits.sumFor state.reserved source)
    (losses : source ∈ after.losses ↔ source ∈ state.losses) :
    Balanced ops after source where
  before := by
    unfold unregistered
    rw [stage, credits, granted, reserved, losses]
    exact balanced.before
  after := by
    rw [stage, credits, granted, reserved, losses]
    exact balanced.after
  accepted := by
    rw [stage]
    exact balanced.accepted

/-- A registered source has a ledger, and an event that leaves the stage alone
may book on it. -/
theorem Balanced.book
    (balanced : Balanced ops state source)
    (registered : state.unregistered source = false)
    (stage : after.sources.find? source = state.sources.find? source)
    (booked : ∀ ledger initial destruction,
      state.sources.find? source = some (.live (some initial) destruction) →
        state.credits.find? source = some ledger →
        ops.available ledger + Credits.sumFor state.reserved source =
          initial + Credits.sumFor state.granted source →
        (ops.isLost ledger = true ↔ source ∈ state.losses) →
        ∃ booked, after.credits.find? source = some booked ∧
          ops.available booked + Credits.sumFor after.reserved source =
            initial + Credits.sumFor after.granted source ∧
          (ops.isLost booked = true ↔ source ∈ after.losses)) :
    Balanced ops after source where
  before := by
    have same : after.unregistered source = state.unregistered source := by
      unfold unregistered
      rw [stage]
    rw [same, registered]
    intro impossible
    cases impossible
  after initial destruction found := by
    rw [stage] at found
    obtain ⟨ledger, entered, sums, marked⟩ :=
      balanced.after initial destruction found
    exact booked ledger initial destruction found entered sums marked
  accepted := by
    rw [stage]
    exact balanced.accepted

/-- The worker may move a source on that is not registered or that stays
registered with the same credit. -/
theorem Balanced.setStage
    (balanced : Balanced ops state source)
    (before : other = source →
      (match stage with
        | .requested _ => true
        | .ready _ => true
        | _ => false) = true → state.unregistered source = true)
    (after : ∀ initial destruction, other = source →
      stage = .live (some initial) destruction →
        ∃ former, state.sources.find? source =
          some (.live (some initial) former))
    (accepted : other = source → stage ≠ .refused) :
    Balanced ops (state.setStage other stage) source := by
  by_cases same : other = source
  · cases same
    have found : (state.setStage source stage).sources.find? source =
        some stage := OrderedMap.find?_insert_self _ _ _
    refine ⟨fun unmoved => ?_, fun initial destruction live => ?_, ?_⟩
    · refine balanced.before (before rfl ?_)
      unfold unregistered at unmoved
      rw [found] at unmoved
      cases stage <;> first | rfl | exact unmoved
    · rw [found] at live
      obtain ⟨former, wasLive⟩ :=
        after initial destruction rfl (Option.some.inj live)
      exact balanced.after initial former wasLive
    · rw [found]
      exact fun refused => accepted rfl (Option.some.inj refused)
  · refine balanced.ofSameStage ?_ rfl rfl rfl Iff.rfl
    have looked := OrderedMap.find?_insert state.sources other stage source
    rw [if_neg (Ne.symm same)] at looked
    exact looked

theorem Balanced.routeCredit
    (lawful : ops.Lawful)
    (balanced : Balanced ops state source)
    (timely : objectId = source → state.unregistered source = false)
    (body : Option Credits) :
    Balanced ops (state.routeCredit ops objectId body) source := by
  unfold OuterCredits.routeCredit
  split
  · exact balanced.ofSameStage rfl rfl rfl rfl Iff.rfl
  · rename_i credits
    simp only
    by_cases same : objectId = source
    · cases same
      split
      · refine balanced.book (timely rfl) rfl ?_
        intro ledger initial _ _ entered sums marked
        refine ⟨ledger, ?_, sums, marked⟩
        rw [entered, Option.getD_some, OrderedMap.find?_insert_self]
      · rename_i granted accepts
        refine balanced.book (timely rfl) rfl ?_
        intro ledger initial _ _ entered sums marked
        rw [entered, Option.getD_some] at accepts
        refine ⟨granted, OrderedMap.find?_insert_self _ _ _, ?_, ?_⟩
        · rw [lawful.available_grant _ _ _ accepts, Credits.sumFor_cons_self,
            add_right_comm, sums, add_assoc, add_comm credits]
        · rw [lawful.isLost_grant _ _ _ accepts]
          exact marked
    · have others : ∀ ledger : Ledger,
          (state.credits.insert objectId ledger).find? source =
            state.credits.find? source := by
        intro ledger
        rw [OrderedMap.find?_insert, if_neg (Ne.symm same)]
      split
      · exact balanced.ofSameStage rfl (others _) rfl rfl Iff.rfl
      · exact balanced.ofSameStage rfl (others _)
          (Credits.sumFor_cons_of_ne same _ _) rfl Iff.rfl

theorem Balanced.routeSourceLost
    (lawful : ops.Lawful)
    (balanced : Balanced ops state source)
    (sound : state.Sound)
    (timely : objectId = source → source ∈ state.arrived →
      state.unregistered source = false)
    (body : Option Nat) :
    Balanced ops (state.routeSourceLost ops objectId body) source := by
  unfold OuterCredits.routeSourceLost
  split
  · exact balanced.ofSameStage rfl rfl rfl rfl Iff.rfl
  · rename_i sourceId
    split
    · exact balanced.ofSameStage rfl rfl rfl rfl Iff.rfl
    · rename_i equal
      have isObject : sourceId = objectId := not_not.mp equal
      have marks := OrderedMap.find?_modify state.credits sourceId ops.markLost
        source
      by_cases same : sourceId = source
      · subst same
        rw [if_pos rfl] at marks
        cases registered : state.unregistered sourceId with
        | false =>
            refine balanced.book registered rfl ?_
            intro ledger initial destruction found entered sums _
            rw [entered] at marks
            refine ⟨ops.markLost ledger, marks, ?_, ?_⟩
            · rw [lawful.available_markLost]
              exact sums
            · have arrived := (sound.fits _ _ found).arrived
              simp [lawful.isLost_markLost, arrived]
        | true =>
            have unheard : sourceId ∉ state.arrived := by
              intro arrived
              rw [timely isObject.symm arrived] at registered
              cases registered
            have noLedger := (balanced.before registered).1
            refine balanced.ofSameStage rfl ?_ rfl rfl ?_
            · rw [noLedger] at marks
              rw [noLedger]
              exact marks
            · simp [unheard]
      · rw [if_neg (Ne.symm same)] at marks
        refine balanced.ofSameStage rfl marks rfl rfl ?_
        simp only
        split_ifs
        · simp [Ne.symm same]
        · exact Iff.rfl

section

variable (balanced : Balanced ops state source)
include balanced

theorem Balanced.reply
    (reply : ControlReply) :
    Balanced ops ((state.noteReply reply).storeReply reply) source := by
  obtain ⟨-, -, sources, credits, -, -, granted, losses, reserved⟩ :=
    (state.noteReply reply).storeReply_frame reply
  refine balanced.ofSameStage ?_ ?_ ?_ ?_ ?_
  · rw [sources]
    rfl
  · rw [credits]
    rfl
  · rw [granted]
    rfl
  · rw [reserved]
    rfl
  · rw [losses]
    rfl

theorem Balanced.waitReply
    (request : Nat)
    (late : Bool) : Balanced ops (state.waitReply request late).1 source := by
  obtain ⟨⟨sources, credits, -, -, -, granted, losses, reserved⟩, -⟩ :=
    state.waitReply_frame request late
  refine balanced.ofSameStage ?_ ?_ ?_ ?_ ?_
  · rw [sources]
  · rw [credits]
  · rw [granted]
  · rw [reserved]
  · rw [losses]

theorem Balanced.ask
    (asked : state.ask = some after) : Balanced ops after source := by
  obtain ⟨-, rfl⟩ := ask_eq_some_iff.mp asked
  exact balanced.ofSameStage rfl rfl rfl rfl Iff.rfl

theorem Balanced.create
    (sound : state.Sound)
    (created : state.create = some after) : Balanced ops after source := by
  obtain ⟨asked, isAsked, rfl⟩ := Option.map_eq_some_iff.mp created
  obtain ⟨-, rfl⟩ := ask_eq_some_iff.mp isAsked
  have fresh : state.sources.find? (state.nextUpstream + 1) = none := by
    rw [Option.eq_none_iff_forall_not_mem]
    intro stage found
    have bound := sound.upstreams _ stage found
    omega
  have counted : Balanced ops { state with
      nextRequest := state.nextRequest + 1
      pendingRequests := (state.nextRequest + 1) :: state.pendingRequests
      nextUpstream := state.nextUpstream + 1 } source :=
    balanced.ofSameStage rfl rfl rfl rfl Iff.rfl
  refine counted.setStage ?_ ?_ ?_
  · intro same _
    have looked : state.sources.find? source = none := same ▸ fresh
    simp [unregistered, looked]
  · intro _ _ _ impossible
    cases impossible
  · intro _ impossible
    cases impossible

theorem Balanced.waitSourceReady
    (found : state.sources.find? other = some (.requested request))
    (late : Bool) :
    Balanced ops (state.waitSourceReady other request late) source := by
  have kept := balanced.waitReply request late
  obtain ⟨⟨sources, -⟩, -⟩ := state.waitReply_frame request late
  unfold OuterCredits.waitSourceReady
  split
  · rename_i after waited
    rw [waited] at kept
    exact kept
  · rename_i after waited
    rw [waited] at kept
    refine kept.setStage ?_ ?_ ?_
    · intro _ impossible
      cases impossible
    · intro _ _ _ impossible
      cases impossible
    · intro _ impossible
      cases impossible
  · rename_i after reply waited
    rw [waited] at kept sources
    have open_ : other = source → after.unregistered source = true := by
      rintro rfl
      have looked : after.sources = state.sources := sources
      simp [unregistered, looked, found]
    refine kept.setStage (fun same _ => open_ same) ?_ ?_
    · intro initial destruction _ impossible
      unfold readyStage at impossible
      split at impossible
      · split_ifs at impossible
      · cases impossible
    · intro _ impossible
      unfold readyStage at impossible
      split at impossible
      · split_ifs at impossible
      · cases impossible

end

theorem Balanced.registerSource
    (lawful : ops.Lawful)
    (balanced : Balanced ops state source)
    {ready : SourceReady}
    (found : state.sources.find? other = some (.ready ready)) :
    Balanced ops (state.registerSource ops other ready) source := by
  by_cases same : other = source
  · subst same
    have open_ : state.unregistered other = true := by
      simp [unregistered, found]
    obtain ⟨noLedger, granted, reserved, unlost⟩ := balanced.before open_
    unfold OuterCredits.registerSource
    rw [noLedger]
    split
    · have stage : (state.sources.insert other
          (.live (some ready.credits) .none)).find? other =
            some (.live (some ready.credits) .none) :=
        OrderedMap.find?_insert_self _ _ _
      have entered : (state.credits.insert other
          (ops.new ready.credits)).find? other = some (ops.new ready.credits) :=
        OrderedMap.find?_insert_self _ _ _
      refine ⟨fun unmoved => ?_, fun initial destruction live => ?_, ?_⟩
      · have looked : (match (state.sources.insert other
            (.live (some ready.credits) .none)).find? other with
            | none => true
            | some (.requested _) => true
            | some (.ready _) => true
            | some _ => false) = true := unmoved
        rw [stage] at looked
        cases looked
      · have looked : some (Stage.live (some ready.credits) .none) =
            some (.live (some initial) destruction) := stage ▸ live
        cases looked
        refine ⟨_, entered, ?_, ?_⟩
        · have sums : ops.available (ops.new ready.credits) +
              Credits.sumFor state.reserved other =
                ready.credits + Credits.sumFor state.granted other := by
            rw [lawful.available_new, granted, reserved]
          exact sums
        · have unmarked : ops.isLost (ops.new ready.credits) = true ↔
              other ∈ state.losses := by
            simp [lawful.isLost_new, unlost]
          exact unmarked
      · intro refused
        have looked : some (Stage.live (some ready.credits) .none) =
            some .refused := stage ▸ refused
        cases looked
    · refine balanced.setStage ?_ ?_ ?_
      · intro _ impossible
        cases impossible
      · intro _ _ _ impossible
        cases impossible
      · intro _ impossible
        cases impossible
  · have stage : ∀ moved : Stage,
        (state.sources.insert other moved).find? source =
          state.sources.find? source := by
      intro moved
      rw [OrderedMap.find?_insert, if_neg (Ne.symm same)]
    unfold OuterCredits.registerSource
    split
    · refine balanced.ofSameStage (stage _) ?_ rfl rfl Iff.rfl
      have ledger := OrderedMap.find?_insert state.credits other
        (ops.new ready.credits) source
      rw [if_neg (Ne.symm same)] at ledger
      exact ledger
    · exact balanced.ofSameStage (stage _) rfl rfl rfl Iff.rfl

theorem Balanced.destroy
    (balanced : Balanced ops state source)
    (found : state.sources.find? other = some (.live initial .none))
    (destroyed : state.destroy other initial = some after) :
    Balanced ops after source := by
  obtain ⟨asked, isAsked, rfl⟩ := Option.map_eq_some_iff.mp destroyed
  have kept := balanced.ask isAsked
  obtain ⟨-, rfl⟩ := ask_eq_some_iff.mp isAsked
  refine kept.setStage ?_ ?_ ?_
  · intro _ impossible
    cases impossible
  · rintro credits destruction rfl live
    cases live
    exact ⟨_, found⟩
  · intro _ impossible
    cases impossible

theorem Balanced.waitDestroyed
    (balanced : Balanced ops state source)
    (found : state.sources.find? other =
      some (.live initial (.requested request)))
    (late : Bool) :
    Balanced ops (state.waitDestroyed other initial request late) source := by
  have kept := balanced.waitReply request late
  obtain ⟨⟨sources, -⟩, -⟩ := state.waitReply_frame request late
  unfold OuterCredits.waitDestroyed
  split
  · rename_i after reply waited
    rw [waited] at kept sources
    split_ifs
    · refine kept.setStage ?_ ?_ ?_
      · intro _ impossible
        cases impossible
      · rintro credits destruction rfl live
        cases live
        have looked : after.sources = state.sources := sources
        exact ⟨_, looked ▸ found⟩
      · intro _ impossible
        cases impossible
    · exact kept
  · rename_i after other _ waited
    rw [waited] at kept
    exact kept

theorem Balanced.retireSource
    (balanced : Balanced ops state source) :
    Balanced ops (state.retireSource other) source := by
  by_cases same : other = source
  · subst same
    have stage : (state.retireSource other).sources.find? other =
        some .retired := OrderedMap.find?_insert_self _ _ _
    refine ⟨fun unmoved => ?_, fun initial destruction live => ?_, ?_⟩
    · unfold unregistered at unmoved
      rw [stage] at unmoved
      cases unmoved
    · rw [stage] at live
      cases live
    · rw [stage]
      intro impossible
      cases impossible
  · refine balanced.ofSameStage ?_ ?_ rfl rfl Iff.rfl
    · have looked := OrderedMap.find?_insert state.sources other .retired source
      rw [if_neg (Ne.symm same)] at looked
      exact looked
    · have looked := OrderedMap.find?_erase state.credits other source
      rw [if_neg (Ne.symm same)] at looked
      exact looked

theorem Balanced.reserveOuterCredit
    (lawful : ops.Lawful)
    (balanced : Balanced ops state source)
    (other bytes : Nat) :
    Balanced ops (state.reserveOuterCredit ops other bytes) source := by
  unfold OuterCredits.reserveOuterCredit
  split
  · exact balanced
  · rename_i ledger found
    split_ifs
    · exact balanced
    · split
      · exact balanced
      · rename_i consumed consumes
        by_cases same : other = source
        · subst same
          have registered : state.unregistered other = false := by
            cases open_ : state.unregistered other with
            | false => rfl
            | true =>
                rw [(balanced.before open_).1] at found
                cases found
          refine balanced.book registered rfl ?_
          intro entered initial _ _ isEntered sums marked
          cases found.symm.trans isEntered
          refine ⟨consumed, OrderedMap.find?_insert_self _ _ _, ?_, ?_⟩
          · rw [Credits.sumFor_cons_self, ← add_assoc,
              lawful.available_consume _ _ _ consumes]
            exact sums
          · rw [lawful.isLost_consume _ _ _ consumes]
            exact marked
        · refine balanced.ofSameStage rfl ?_ rfl
            (Credits.sumFor_cons_of_ne same _ _) Iff.rfl
          have looked := OrderedMap.find?_insert state.credits other consumed
            source
          rw [if_neg (Ne.symm same)] at looked
          exact looked
    · exact balanced

end OuterCredits

/-! ## Every run -/

section Runs

open OuterCredits

/-- What the presenter promises: it grants credit for a source after it sent
the source's `SOURCE_READY` and before it acknowledges its destruction. -/
def Promised
    (state : OuterCredits Ledger) :
    CreditEvent → Prop
  | .read (.credit objectId _) =>
      objectId ∈ state.arrived ∧ objectId ∉ state.acknowledged
  | _ => True

/-- A `CREDIT` or `SOURCE_LOST` record is routed after its source's
`SOURCE_READY` and before `register_source`. -/
def Early
    (source : Nat)
    (state : OuterCredits Ledger) :
    CreditEvent → Prop
  | .read (.credit objectId _) =>
      objectId = source ∧ source ∈ state.arrived ∧
        state.unregistered source = true
  | .read (.sourceLost objectId _) =>
      objectId = source ∧ source ∈ state.arrived ∧
        state.unregistered source = true
  | _ => False

theorem OuterCredits.Sound.readerEnds
    {state : OuterCredits Ledger}
    (sound : state.Sound)
    (gone : Bool) : Sound { state with readerGone := gone } :=
  { sound with }

variable {event : CreditEvent}

theorem OuterCredits.Sound.creditStep
    {before after : OuterCredits Ledger}
    (sound : before.Sound)
    (promised : Promised before event)
    (stepped : creditStep ops before event = some after) : after.Sound := by
  cases event with
  | read record =>
      simp only [Bridge.creditStep] at stepped
      split_ifs at stepped
      cases stepped
      cases record with
      | credit objectId body =>
          exact (sound.routeCredit promised.2 body).readerEnds _
      | sourceLost objectId body =>
          exact (sound.routeSourceLost objectId body).readerEnds _
      | reply reply => exact (sound.reply reply).readerEnds _
      | other taken =>
          cases taken with
          | false =>
              exact { sound with }
          | true => exact sound.readerEnds _
  | readFails =>
      simp only [Bridge.creditStep] at stepped
      split_ifs at stepped
      cases stepped
      exact { sound with }
  | closes =>
      cases stepped
      exact { sound with }
  | ask => exact sound.ask stepped
  | waitOther request late =>
      cases stepped
      exact sound.waitReply request late
  | create => exact sound.create stepped
  | waitReady source late =>
      simp only [Bridge.creditStep] at stepped
      split at stepped
      · rename_i request found
        cases stepped
        exact sound.waitSourceReady found late
      · cases stepped
  | register source =>
      simp only [Bridge.creditStep] at stepped
      split at stepped
      · rename_i ready found
        cases stepped
        exact sound.registerSource found
      · cases stepped
  | destroy source =>
      simp only [Bridge.creditStep] at stepped
      split at stepped
      · rename_i initial found
        exact sound.destroy found stepped
      · cases stepped
  | waitDestroyed source late =>
      simp only [Bridge.creditStep] at stepped
      split at stepped
      · rename_i initial request found
        cases stepped
        exact sound.waitDestroyed found late
      · cases stepped
  | retire source =>
      simp only [Bridge.creditStep] at stepped
      split at stepped
      · rename_i initial found
        cases stepped
        exact sound.retireSource found
      · cases stepped
  | takeLosses =>
      cases stepped
      exact { sound with }
  | reserve source bytes =>
      cases stepped
      exact sound.reserveOuterCredit source bytes

theorem OuterCredits.Balanced.creditStep
    {before after : OuterCredits Ledger}
    {source : Nat}
    (lawful : ops.Lawful)
    (sound : before.Sound)
    (balanced : Balanced ops before source)
    (promised : Promised before event)
    (timely : ¬ Early source before event)
    (stepped : creditStep ops before event = some after) :
    Balanced ops after source := by
  cases event with
  | read record =>
      simp only [Bridge.creditStep] at stepped
      split_ifs at stepped
      cases stepped
      cases record with
      | credit objectId body =>
          have routed : Balanced ops (before.routeCredit ops objectId body)
              source := by
            refine balanced.routeCredit lawful ?_ body
            rintro rfl
            rw [← Bool.not_eq_true]
            exact fun unregistered => timely ⟨rfl, promised.1, unregistered⟩
          exact routed.ofSameStage rfl rfl rfl rfl Iff.rfl
      | sourceLost objectId body =>
          have routed : Balanced ops (before.routeSourceLost ops objectId body)
              source := by
            refine balanced.routeSourceLost lawful sound ?_ body
            rintro rfl arrived
            rw [← Bool.not_eq_true]
            exact fun unregistered => timely ⟨rfl, arrived, unregistered⟩
          exact routed.ofSameStage rfl rfl rfl rfl Iff.rfl
      | reply reply =>
          exact (balanced.reply reply).ofSameStage rfl rfl rfl rfl Iff.rfl
      | other taken =>
          cases taken with
          | false | true => exact balanced.ofSameStage rfl rfl rfl rfl Iff.rfl
  | readFails =>
      simp only [Bridge.creditStep] at stepped
      split_ifs at stepped
      cases stepped
      exact balanced.ofSameStage rfl rfl rfl rfl Iff.rfl
  | closes =>
      cases stepped
      exact balanced.ofSameStage rfl rfl rfl rfl Iff.rfl
  | ask => exact balanced.ask stepped
  | waitOther request late =>
      cases stepped
      exact balanced.waitReply request late
  | create => exact balanced.create sound stepped
  | waitReady other late =>
      simp only [Bridge.creditStep] at stepped
      split at stepped
      · rename_i request found
        cases stepped
        exact balanced.waitSourceReady found late
      · cases stepped
  | register other =>
      simp only [Bridge.creditStep] at stepped
      split at stepped
      · rename_i ready found
        cases stepped
        exact balanced.registerSource lawful found
      · cases stepped
  | destroy other =>
      simp only [Bridge.creditStep] at stepped
      split at stepped
      · rename_i initial found
        exact balanced.destroy found stepped
      · cases stepped
  | waitDestroyed other late =>
      simp only [Bridge.creditStep] at stepped
      split at stepped
      · rename_i initial request found
        cases stepped
        exact balanced.waitDestroyed found late
      · cases stepped
  | retire other =>
      simp only [Bridge.creditStep] at stepped
      split at stepped
      · rename_i initial found
        cases stepped
        exact balanced.retireSource
      · cases stepped
  | takeLosses =>
      cases stepped
      exact balanced.ofSameStage rfl rfl rfl rfl Iff.rfl
  | reserve other bytes =>
      cases stepped
      exact balanced.reserveOuterCredit lawful other bytes

/-- The outer credit of a source is exact: while it is registered its ledger
has the initial credit and the grants but for the reservations, and is lost
when the presenter said so; `register_source` has not refused it; and when it
is retired it has no ledger. -/
structure OuterCredits.Exact
    (ops : LedgerOps Ledger)
    (state : OuterCredits Ledger)
    (source : Nat) : Prop where
  available : ∀ initial destruction,
    state.sources.find? source = some (.live (some initial) destruction) →
      ∃ ledger, state.credits.find? source = some ledger ∧
        ops.available ledger + Credits.sumFor state.reserved source =
          initial + Credits.sumFor state.granted source ∧
        (ops.isLost ledger = true ↔ source ∈ state.losses)
  accepted : state.sources.find? source ≠ some .refused
  retired : state.sources.find? source = some .retired →
    state.credits.find? source = none

/-- Without early records for a source, its credit is exact in every run. -/
theorem outer_credit_exact
    (lawful : ops.Lawful)
    (source : Nat)
    {state : OuterCredits Ledger}
    (reached : (creditMachine ops).Reachable
      (fun before event =>
        Promised before event ∧ ¬ Early source before event)
      state) :
    state.Exact ops source := by
  have preserved : (creditMachine ops).Preserved
      (fun before event => Promised before event ∧ ¬ Early source before event)
      (fun state => state.Sound ∧ Balanced ops state source) := by
    intro before event after ⟨sound, balanced⟩ ⟨promised, timely⟩ stepped
    exact ⟨sound.creditStep promised stepped,
      balanced.creditStep lawful sound promised timely stepped⟩
  obtain ⟨sound, balanced⟩ := reached.invariant
    (fun start ⟨request, upstream, same⟩ => same ▸
      ⟨sound_start request upstream, balanced_start request upstream source⟩)
    preserved
  exact ⟨balanced.after, balanced.accepted,
    fun retired => (sound.fits source _ retired).2⟩

end Runs

/-! ## Two runs -/

section Examples

open OuterCredits

/-- A ledger whose sums are checked against 64 bits, and whether it is lost. -/
def checkedLedger : LedgerOps (Credits × Bool) where
  new credits := (credits, false)
  default := (0, false)
  grant ledger credits :=
    if ledger.1.bytes + credits.bytes < 2 ^ 64 ∧
        ledger.1.packets + credits.packets < 2 ^ 64 ∧
        ledger.1.fragments + credits.fragments < 2 ^ 64 then
      some (ledger.1 + credits, ledger.2)
    else none
  markLost ledger := (ledger.1, true)
  isLost ledger := ledger.2
  canConsume ledger bytes :=
    decide (bytes ≤ ledger.1.bytes ∧ 1 ≤ ledger.1.packets ∧
      1 ≤ ledger.1.fragments)
  consume ledger bytes :=
    if bytes ≤ ledger.1.bytes ∧ 1 ≤ ledger.1.packets ∧
        1 ≤ ledger.1.fragments then
      some (⟨ledger.1.bytes - bytes, ledger.1.packets - 1,
        ledger.1.fragments - 1⟩, ledger.2)
    else none
  available ledger := ledger.1
  cost bytes := ⟨bytes, 1, 1⟩

theorem checkedLedger_lawful :
    checkedLedger.Lawful where
  available_new _ := rfl
  isLost_new _ := rfl
  available_grant ledger credits granted accepts := by
    simp only [checkedLedger] at accepts
    split_ifs at accepts
    cases accepts
    rfl
  isLost_grant ledger credits granted accepts := by
    simp only [checkedLedger] at accepts
    split_ifs at accepts
    cases accepts
    rfl
  available_consume ledger bytes consumed consumes := by
    simp only [checkedLedger] at consumes
    split_ifs at consumes with enough
    cases consumes
    obtain ⟨bytesFit, packet, fragment⟩ := enough
    ext
    · exact Nat.sub_add_cancel bytesFit
    · exact Nat.sub_add_cancel packet
    · exact Nat.sub_add_cancel fragment
  isLost_consume ledger bytes consumed consumes := by
    simp only [checkedLedger] at consumes
    split_ifs at consumes
    cases consumes
    rfl
  available_markLost _ := rfl
  isLost_markLost _ := rfl

variable {Ledger : Type*}

def isPromised
    (state : OuterCredits Ledger) :
    CreditEvent → Bool
  | .read (.credit objectId _) =>
      decide (objectId ∈ state.arrived) &&
        !decide (objectId ∈ state.acknowledged)
  | _ => true

theorem promised_of_isPromised
    (state : OuterCredits Ledger)
    (event : CreditEvent)
    (passes : isPromised state event = true) : Promised state event := by
  unfold isPromised at passes
  split at passes
  · rw [Bool.and_eq_true, Bool.not_eq_true', decide_eq_true_eq,
      decide_eq_false_iff_not] at passes
    exact passes
  · rename_i others
    unfold Promised
    split
    · exact absurd rfl (others _ _)
    · trivial

/-- The records that are about a source come when it is registered. -/
def isTimely
    (source : Nat)
    (state : OuterCredits Ledger)
    (event : CreditEvent) : Bool :=
  isPromised state event &&
    match event with
    | .read (.credit objectId _) =>
        !(decide (objectId = source) && state.unregistered source)
    | .read (.sourceLost objectId _) =>
        !(decide (objectId = source) && state.unregistered source)
    | _ => true

theorem promised_of_isTimely
    (source : Nat)
    (state : OuterCredits Ledger)
    (event : CreditEvent)
    (passes : isTimely source state event = true) :
    Promised state event ∧ ¬ Early source state event := by
  unfold isTimely at passes
  rw [Bool.and_eq_true] at passes
  refine ⟨promised_of_isPromised state event passes.1, fun early => ?_⟩
  have timely := passes.2
  unfold Early at early
  split at early
  · simp [early.1, early.2.2] at timely
  · simp [early.1, early.2.2] at timely
  · exact early

/-- A source is created, granted more credit, and pays for a record. -/
def grantedAndReserved : List CreditEvent :=
  [.create,
    .read (.reply ⟨1, 1, .sourceReady (some ⟨1, true, ⟨100, 2, 2⟩⟩)⟩),
    .waitReady 1 false, .register 1, .read (.credit 1 (some ⟨50, 1, 1⟩)),
    .reserve 1 120]

def afterReservation : OuterCredits (Credits × Bool) :=
  (Machine.follow (creditStep checkedLedger) (isTimely 1) (start 0 0)
    grantedAndReserved).get (by decide +kernel)

theorem outer_credit_exact_reserved :
    afterReservation.credits.find? 1 = some (⟨30, 2, 2⟩, false) ∧
      afterReservation.Exact checkedLedger 1 := by
  have reached : (creditMachine checkedLedger).Reachable
      (fun before event => Promised before event ∧ ¬ Early 1 before event)
      afterReservation :=
    Machine.Reachable.follow (fun _ _ _ stepped => stepped)
      (promised_of_isTimely 1) (.initial ⟨0, 0, rfl⟩)
      (Option.some_get _).symm
  exact ⟨by decide +kernel, outer_credit_exact checkedLedger_lawful 1 reached⟩

/-- The same grant comes before the worker has handled the `SOURCE_READY`. -/
def grantedEarly : List CreditEvent :=
  [.create,
    .read (.reply ⟨1, 1, .sourceReady (some ⟨1, true, ⟨100, 2, 2⟩⟩)⟩),
    .read (.credit 1 (some ⟨50, 1, 1⟩)), .waitReady 1 false, .register 1]

def afterEarlyGrant : OuterCredits (Credits × Bool) :=
  (Machine.follow (creditStep checkedLedger) isPromised (start 0 0)
    grantedEarly).get (by decide +kernel)

/-- The source is refused, and the grant is gone from the ledger. -/
theorem early_grant_refuses_source :
    (afterEarlyGrant.sources.find? 1 = some .refused ∧
      afterEarlyGrant.credits.find? 1 = some (⟨100, 2, 2⟩, false)) ∧
    ¬ ∀ state : OuterCredits (Credits × Bool),
      (creditMachine checkedLedger).Reachable Promised state →
        ∀ source, state.Exact checkedLedger source := by
  have reached : (creditMachine checkedLedger).Reachable Promised
      afterEarlyGrant :=
    Machine.Reachable.follow (fun _ _ _ stepped => stepped)
      promised_of_isPromised (.initial ⟨0, 0, rfl⟩) (Option.some_get _).symm
  have refused : afterEarlyGrant.sources.find? 1 = some .refused := by
    decide +kernel
  refine ⟨⟨refused, by decide +kernel⟩, fun always => ?_⟩
  exact (always afterEarlyGrant reached 1).accepted refused

end Examples

end Bridge
end Vvmux
