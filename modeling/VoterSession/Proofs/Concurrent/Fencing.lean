import VoterSession.Proofs.Concurrent.Ledger
set_option autoImplicit false

/-!
Leases as fences. A write that was decided on an old record names the lease of that record, and lands only
while its session is still on that lease. Main statement: `lease_fencing`.
-/
namespace VoterSession.Concurrent

def State.OnLease (state : State) (id : SessionId) (lease : LeaseId) : Prop :=
  ∃ holding, state.store.seen state.now (Sessions.key id) = some holding ∧ holding.lease = lease

/-- The lease was granted once and is not live any more. -/
structure State.Lapsed (state : State) (lease : LeaseId) : Prop where
  numbered : lease.number ≤ state.store.lastLease
  dead : ¬ state.store.Alive state.now lease

variable {state after : State} {window : ServiceWindow}

theorem Ledger.one_key (ledger : Ledger state) (sound : state.store.Sound) {lease : LeaseId}
    {slot : LeaseSlot} (live : (state.store.purge state.now).slots[lease]? = some slot) :
    ∃ id, ∀ key, key ∈ slot.keys ↔ key = Sessions.key id := by
  have purged := sound.purge state.now
  obtain ⟨key, value, shown, member⟩ := purged.holding?_of_slot live
  obtain ⟨id, _, rfl, _⟩ := ledger.shown shown
  refine ⟨id, ?_⟩
  intro other
  constructor
  · intro listed
    obtain ⟨value', entry⟩ := purged.listed live listed
    obtain ⟨_, _, _, shown'⟩ := purged.holding?_of_entry entry
    exact ledger.unshared shown' shown rfl
  · rintro rfl
    exact member

theorem State.Lapsed.move {lease : LeaseId} (sound : state.store.Sound) (lapsed : state.Lapsed lease)
    (move : Move state after) : after.Lapsed lease ∧
      ∃ newer, after.history = newer ++ state.history ∧
        ∀ entry ∈ newer, ∀ request held, entry.deed = .updated request held → held ≠ lease := by
  have still : (∀ key holding, after.store.seen after.now key = some holding →
      ∃ before, state.store.seen state.now key = some before ∧ before.lease = holding.lease) →
      ¬ after.store.Alive after.now lease := by
    rintro shown ⟨key, holding, h, rfl⟩
    obtain ⟨before, hbefore, same⟩ := shown key holding h
    exact lapsed.dead ⟨key, before, hbefore, same⟩
  cases move with
  | quiet history time store =>
    refine ⟨⟨by rw [store.counted]; exact lapsed.numbered, still ?_⟩, [], history, by simp⟩
    intro key holding h
    exact ⟨holding, Ledger.shown_of_unmoved sound time store h, rfl⟩
  | read i call record history time store =>
    refine ⟨⟨by rw [store.counted]; exact lapsed.numbered, still ?_⟩, [_], history, ?_⟩
    · intro key holding h
      rw [time, store.seen] at h
      exact ⟨holding, h, rfl⟩
    · intro entry member request held deed
      rw [List.mem_singleton.1 member] at deed
      cases deed
  | deleted i call plan request _ _ history time store =>
    refine ⟨⟨by rw [store.counted]; exact lapsed.numbered, still ?_⟩, [_], history, ?_⟩
    · intro key holding h
      rw [time, store.seen] at h
      split at h
      · cases h
      · exact ⟨holding, h, rfl⟩
    · intro entry member request held deed
      rw [List.mem_singleton.1 member] at deed
      cases deed
  | updated i call plan request held ttl _ _ history time store =>
    have numbered := lapsed.numbered
    have other : held ≠ lease := by
      rintro rfl
      obtain ⟨_, rfl, _⟩ | ⟨_, _, _, key, holding, shown, same, _⟩ := store.source
      · simp only at numbered
        omega
      · exact lapsed.dead ⟨key, holding, shown, same⟩
    refine ⟨⟨?_, ?_⟩, [_], history, ?_⟩
    · obtain ⟨_, _, _, counted⟩ | ⟨_, _, counted, _⟩ := store.source <;> omega
    · rintro ⟨key, holding, h, same⟩
      rw [time, store.seen] at h
      split at h
      · cases h
        exact other same
      · obtain ⟨before, shown, rfl⟩ := Option.map_eq_some_iff.1 h
        rw [Holding.renewed_lease] at same
        exact lapsed.dead ⟨key, before, shown, same⟩
    · intro entry member request' held' deed
      rw [List.mem_singleton.1 member] at deed
      cases deed
      exact other

theorem State.Lapsed.run {lease : LeaseId} {events : List Event} (lapsed : (run window events).Lapsed lease)
    (more : List Event) : (run window (events ++ more)).Lapsed lease ∧
      ∃ newer, (run window (events ++ more)).history = newer ++ (run window events).history ∧
        ∀ entry ∈ newer, ∀ request held, entry.deed = .updated request held → held ≠ lease := by
  induction more using List.reverseRecOn with
  | nil =>
    rw [List.append_nil]
    exact ⟨lapsed, [], rfl, by simp⟩
  | append_singleton more event ih =>
    obtain ⟨still, newer, history, elsewhere⟩ := ih
    have sound := (ledger_run window (events ++ more)).1
    obtain ⟨after, latest, grown, apart⟩ := still.move sound (move_step sound window event)
    rw [← List.append_assoc, run_concat]
    refine ⟨after, latest ++ newer, ?_, ?_⟩
    · rw [grown, history, List.append_assoc]
    · intro entry member
      obtain member | member := List.mem_append.1 member
      · exact apart entry member
      · exact elsewhere entry member

/-! ### The write of a plan that names a lease -/

/-- The update of a call lands on the lease that it names, whether the answer arrives or not, and a front
end that waits for it is told that the step is accepted. -/
def State.Lands (state : State) (window : ServiceWindow) (i serviceNow : Nat) (job : Job) (plan : Plan)
    (request : UpdateRequest) : Prop :=
  (∀ answered, (state.step window (.write i serviceNow answered)).history =
    ⟨i, job.call, state.now, .updated request request.lease⟩ :: state.history) ∧
  (job.result = none → ((state.step window (.write i serviceNow true)).jobs[i]?.bind Job.result) =
    some (.ok plan.accepted))

/-- The store does not find the lease that the update of a call names, nothing but expiry changes, and a
front end that waits for it is told that its step is not acknowledged. -/
def State.Refuses (state : State) (window : ServiceWindow) (i serviceNow : Nat) (job : Job)
    (request : UpdateRequest) : Prop :=
  state.store.step state.now (.put (Sessions.key request.header.sessionId)
      (RecordText.encode (some request.caller) request.auth) request.lease request.ttl) =
    (.error (.leaseNotFound request.lease), state.store.purge state.now) ∧
  (∀ answered, (state.step window (.write i serviceNow answered)).store = state.store.purge state.now ∧
    (state.step window (.write i serviceNow answered)).history = state.history) ∧
  (job.result = none → ((state.step window (.write i serviceNow true)).jobs[i]?.bind Job.result) =
    some (.error (.notAcknowledged job.call.method
      (some (StatusService.refusal job.call.session (.leaseNotFound request.lease))))))

section Delivery

variable {i serviceNow : Nat} {job : Job} {plan : Plan} {request : UpdateRequest}

theorem Ledger.lands (ledger : Ledger state) (sound : state.store.Sound)
    (started : state.jobs[i]? = some job) (planned : job.plan = some plan)
    (asks : plan.write = .update request) (opened : window.contains serviceNow = true)
    (current : state.OnLease job.call.session request.lease) :
    state.Lands window i serviceNow job plan request := by
  have grounded := ledger.plans ⟨job, started, rfl, planned⟩
  obtain ⟨valid, _⟩ := ledger.chronicle.update_asked grounded asks
  obtain ⟨holding, shown, same⟩ := current
  obtain ⟨after, delivered, written⟩ := SessionWrite.deliver_alive sound opened valid shown same
  have attached := written.seen (Sessions.key request.header.sessionId)
  rw [if_pos rfl] at attached
  refine ⟨?_, ?_⟩
  · intro answered
    rw [State.step, State.write_of_job serviceNow answered started planned, asks, delivered]
    simp only [Entry.ofWrite, Deed.ofWrite, attached, Option.elim_some, List.singleton_append]
  · intro waiting
    have inside := (List.getElem?_eq_some_iff.1 started).1
    rw [State.step, State.write_of_job serviceNow true started planned, asks, delivered]
    simp [inside, Job.concluded, waiting, Plan.conclude, Ack.done]

theorem Ledger.refuses (ledger : Ledger state) (sound : state.store.Sound)
    (started : state.jobs[i]? = some job) (planned : job.plan = some plan)
    (asks : plan.write = .update request) (named : request.lease ≠ .none)
    (opened : window.contains serviceNow = true)
    (stale : ¬ state.OnLease job.call.session request.lease) :
    state.Refuses window i serviceNow job request := by
  have grounded := ledger.plans ⟨job, started, rfl, planned⟩
  obtain ⟨valid, shape, accepted, granted⟩ := ledger.chronicle.update_asked grounded asks
  have dead : ¬ state.store.Alive state.now request.lease := by
    rw [ledger.alive_iff (granted named)]
    exact stale
  have session : request.header.sessionId = job.call.session := by
    rw [shape]
    rfl
  have delivered := SessionWrite.deliver_dead sound opened valid named dead
  refine ⟨sound.step_put_dead _ _ _ named dead, ?_, ?_⟩
  · intro answered
    rw [State.step, State.write_of_job serviceNow answered started planned, asks, delivered]
    exact ⟨rfl, rfl⟩
  · intro waiting
    have inside := (List.getElem?_eq_some_iff.1 started).1
    rw [State.step, State.write_of_job serviceNow true started planned, asks, delivered, session]
    simp [inside, Job.concluded, waiting, Plan.conclude, accepted, Call.updating]

theorem Ledger.lapsed (ledger : Ledger state) (started : state.jobs[i]? = some job)
    (planned : job.plan = some plan) (asks : plan.write = .update request)
    (named : request.lease ≠ .none) (stale : ¬ state.OnLease job.call.session request.lease) :
    state.Lapsed request.lease := by
  have grounded := ledger.plans ⟨job, started, rfl, planned⟩
  obtain ⟨_, _, _, granted⟩ := ledger.chronicle.update_asked grounded asks
  refine ⟨ledger.numbered (granted named), ?_⟩
  rw [ledger.alive_iff (granted named)]
  exact stale

end Delivery

/-- In every run: a live lease has exactly one key; all updates on one lease were on one session with one
tag; and an update that names a lease lands if its session is on that lease at that moment, is refused if
it is not, and once it would be refused nothing lands on that lease again. -/
theorem lease_fencing (window : ServiceWindow) (events : List Event) :
    (∀ (lease : LeaseId) (slot : LeaseSlot), ((run window events).store.purge (run window events).now).slots[lease]? = some slot →
      ∃ id, ∀ key, key ∈ slot.keys ↔ key = Sessions.key id) ∧
    (∀ entry ∈ (run window events).history, ∀ entry' ∈ (run window events).history,
      ∀ request request' held, entry.deed = .updated request held → entry'.deed = .updated request' held →
      entry.session = entry'.session ∧ request.auth = request'.auth) ∧
    ∀ i job plan request, (run window events).jobs[i]? = some job → job.plan = some plan →
      plan.write = .update request → request.lease ≠ .none →
      (∀ serviceNow, window.contains serviceNow = true →
        ((run window events).OnLease job.call.session request.lease →
          (run window events).Lands window i serviceNow job plan request) ∧
        (¬ (run window events).OnLease job.call.session request.lease →
          (run window events).Refuses window i serviceNow job request)) ∧
      (¬ (run window events).OnLease job.call.session request.lease →
        ∀ more, ∃ newer, (run window (events ++ more)).history = newer ++ (run window events).history ∧
          ∀ entry ∈ newer, ∀ request' held, entry.deed = .updated request' held →
            held ≠ request.lease ∧ request'.lease ≠ request.lease) := by
  obtain ⟨sound, ledger⟩ := ledger_run window events
  refine ⟨fun lease slot live => ledger.one_key sound live, ?_, ?_⟩
  · intro entry member entry' member' request request' held deed deed'
    have single := ledger.single ⟨entry, member, request, deed, rfl, rfl, rfl⟩
      ⟨entry', member', request', deed', rfl, rfl, rfl⟩
    exact ⟨single.1, single.2.1⟩
  · intro i job plan request started planned asks named
    refine ⟨?_, ?_⟩
    · intro serviceNow opened
      exact ⟨ledger.lands sound started planned asks opened,
        ledger.refuses sound started planned asks named opened⟩
    · intro stale more
      have lapsed := ledger.lapsed started planned asks named stale
      obtain ⟨_, newer, history, elsewhere⟩ := lapsed.run more
      refine ⟨newer, history, ?_⟩
      intro entry member request' held deed
      have other := elsewhere entry member request' held deed
      refine ⟨other, ?_⟩
      intro same
      have chronicle := (ledger_run window (events ++ more)).2.chronicle
      rw [history] at chronicle
      rw [← same] at other named
      exact other (chronicle.held_eq (List.mem_append_left _ member) deed named)

/-- A poll that was decided on before the choices moved its session to a new lease. -/
def stalePoll : List Event :=
  alone 0 0 (phoneCall .authenticate) ++ alone 1 0 (phoneCall .authenticateStatus) ++
    [.start (phoneCall .authenticateStatus), .read 2 0 true]

theorem stale_poll_refused :
    (∃ job plan request, (run .always stalePoll).Lands .always 2 0 job plan request) ∧
    (∃ (lease : LeaseId) (slot : LeaseSlot) (id : SessionId), ((run .always stalePoll).store.purge
        (run .always stalePoll).now).slots[lease]? = some slot ∧
      ∀ key, key ∈ slot.keys ↔ key = Sessions.key id) ∧
    ∃ job request, (run .always (stalePoll ++ alone 3 0 choicesCall)).Refuses .always 2 0 job request ∧
      ∀ more, ∃ newer, (run .always (stalePoll ++ alone 3 0 choicesCall ++ more)).history =
          newer ++ (run .always (stalePoll ++ alone 3 0 choicesCall)).history ∧
        ∀ entry ∈ newer, ∀ request' held, entry.deed = .updated request' held →
          held ≠ request.lease ∧ request'.lease ≠ request.lease := by
  have early : ((run .always stalePoll).jobs[2]?.map fun job => (job.plan.map Plan.write,
      ((run .always stalePoll).store.seen (run .always stalePoll).now job.call.key).map Holding.lease)) =
      some (some (.update ((phoneCall .authenticateStatus).request .mobileId ⟨1⟩)), some ⟨1⟩) := by
    decide +kernel
  have late : ((run .always (stalePoll ++ alone 3 0 choicesCall)).jobs[2]?.map fun job =>
      (job.plan.map Plan.write, ((run .always (stalePoll ++ alone 3 0 choicesCall)).store.seen
        (run .always (stalePoll ++ alone 3 0 choicesCall)).now job.call.key).map Holding.lease)) =
      some (some (.update ((phoneCall .authenticateStatus).request .mobileId ⟨1⟩)), some ⟨2⟩) := by
    decide +kernel
  have live : ((run .always stalePoll).store.purge
      (run .always stalePoll).now).slots[(⟨1⟩ : LeaseId)]?.isSome = true := by decide +kernel
  have named : ((phoneCall .authenticateStatus).request .mobileId ⟨1⟩).lease ≠ .none := by decide
  refine ⟨?_, ?_, ?_⟩
  · obtain ⟨job, started, found⟩ := Option.map_eq_some_iff.1 early
    obtain ⟨planned, attached⟩ := Prod.mk.inj found
    obtain ⟨plan, planned, asks⟩ := Option.map_eq_some_iff.1 planned
    obtain ⟨holding, shown, lease⟩ := Option.map_eq_some_iff.1 attached
    have deliveries := ((lease_fencing .always stalePoll).2.2 2 job plan _ started planned asks named).1
    exact ⟨job, plan, _, (deliveries 0 rfl).1 ⟨holding, shown, lease⟩⟩
  · obtain ⟨slot, hslot⟩ := Option.isSome_iff_exists.1 live
    obtain ⟨id, alone⟩ := (lease_fencing .always stalePoll).1 ⟨1⟩ slot hslot
    exact ⟨⟨1⟩, slot, id, hslot, alone⟩
  · obtain ⟨job, started, found⟩ := Option.map_eq_some_iff.1 late
    obtain ⟨planned, attached⟩ := Prod.mk.inj found
    obtain ⟨plan, planned, asks⟩ := Option.map_eq_some_iff.1 planned
    obtain ⟨holding, shown, lease⟩ := Option.map_eq_some_iff.1 attached
    have stale : ¬ (run .always (stalePoll ++ alone 3 0 choicesCall)).OnLease job.call.session ⟨1⟩ := by
      rintro ⟨other, shown', lease'⟩
      have same : holding = other := Option.some.inj (shown.symm.trans shown')
      rw [same, lease'] at lease
      cases lease
    have fenced := (lease_fencing .always (stalePoll ++ alone 3 0 choicesCall)).2.2 2 job plan _ started
      planned asks named
    exact ⟨job, _, (fenced.1 0 rfl).2 stale, fenced.2 stale⟩

end VoterSession.Concurrent
