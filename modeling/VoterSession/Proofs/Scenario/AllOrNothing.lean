import VoterSession.Proofs.Scenario.Settling
set_option autoImplicit false

/-!
A verification writes all of its step or nothing of it, whatever faults its attempts at the store meet and
however often they are repeated. Main statement: `verification_all_or_nothing`.
-/
namespace VoterSession.Scenario

open Timed Bench

def faultyService (policy : RetryPolicy) (schedule : Nat → Fault) (window : ServiceWindow)
    (reading : Nat → Bench → Nat) : StatusService (Timed Bench) where
  store := policy.guard Timed.timing (faulty schedule)
  window := window
  clock := glance reading

section

variable (store : LeaseStore) (begun : Nat) (verifier : Verifier) (header : Header) (method : Method)
  (transport : Transport)

/-- An attempt to read was answered with what the store showed at the time, and the table decided in this way
on that record. -/
def Decided (now : Nat) (bench : Bench) (decision : Except Rejection Transition) : Prop :=
  ∃ stored record, (.get (Sessions.key header.sessionId), .found stored) ∈ bench.answered ∧
    Found store begun (Sessions.key header.sessionId) stored now ∧
    Sessions.record (Sessions.key header.sessionId) stored = .ok record ∧
    verifier.table.evaluate method record transport = decision

structure Untouched (now : Nat) (bench : Bench) : Prop where
  asked : ∀ action ∈ bench.asked, action = .get (Sessions.key header.sessionId)
  store : bench.store = store ∨ ∃ time, begun ≤ time ∧ time ≤ now ∧ bench.store = store.purge time

/-- What the result of a verification says of the store. -/
def Verdict : Except VerifyError AcceptedTransition → Nat → Bench → Prop
  | .ok accepted, now, bench => ∃ step written,
      Decided store begun verifier header method transport now bench (.ok step) ∧
      accepted.method = method ∧ accepted.auth = step.auth ∧
      (accepted.outcome = .deleted ↔ step.advance = .delete) ∧
      begun ≤ written ∧ written ≤ now ∧
      step.Leaves method written (bench.store.seen written (Sessions.key header.sessionId))
  | .error (.rejected rejection), now, bench =>
      Untouched store begun header now bench ∧
      Decided store begun verifier header method transport now bench (.error rejection)
  | .error (.status _), now, bench => Untouched store begun header now bench
  | .error (.notAcknowledged reported _), now, bench => reported = method ∧ ∃ step,
      Decided store begun verifier header method transport now bench (.ok step) ∧
      (bench.store.seen now (Sessions.key header.sessionId) =
          store.seen now (Sessions.key header.sessionId) ∨
        ∃ written left, begun ≤ written ∧ written ≤ now ∧ step.Leaves method written left ∧
          bench.store.seen now (Sessions.key header.sessionId) =
            left.filter fun holding => now < holding.deadline)

def Opened : Except ClientError ReadResponse → Nat → Bench → Prop
  | .ok response, now, bench => ∃ read stored, begun ≤ read ∧
      stored = (store.seen read (Sessions.key header.sessionId)).map Holding.stored ∧
      Sessions.record (Sessions.key header.sessionId) stored = .ok response.record ∧
      Shows (· = .get (Sessions.key header.sessionId)) [(.get (Sessions.key header.sessionId), .found stored)]
        (fun now state => Pristine store begun now state ∧ read ≤ now) now bench
  | .error _, now, bench => Shows (· = .get (Sessions.key header.sessionId)) [] (Pristine store begun) now bench

end

section

variable {verifier : Verifier} {header : Header} {method : Method} {transport : Transport}
variable {store : LeaseStore} {since begun : Nat}

theorem untouched_of_shows {only : StoreAction → Prop} {heard : List (StoreAction × StoreReply)}
    {pristine : Nat → LeaseStore → Prop} {now : Nat} {bench : Bench} (shows : Shows only heard pristine now bench)
    (asked : ∀ action, only action → action = .get (Sessions.key header.sessionId))
    (unchanged : ∀ state, pristine now state → Pristine store begun now state) :
    Untouched store begun header now bench where
  asked action member := asked action (shows.asked action member)
  store := (unchanged _ shows.holds).2

theorem timely_opening (sound : store.Sound) (policy : RetryPolicy) (schedule : Nat → Fault)
    (window : ServiceWindow) (reading : Nat → Bench → Nat) (valid : header.validate = .ok ())
    (cut : Nat → Bench → Prop) :
    Timely none (Shows (· = .get (Sessions.key header.sessionId)) [] (Pristine store begun))
      ((faultyService policy schedule window reading).client.call (.read { header }))
      (Opened store begun header) cut := by
  have ticking : (faultyService policy schedule window reading).clock = glance reading := rfl
  refine timely_read ticking valid ?_ fun _ _ _ shows => shows
  have found := (withstands_read sound begun (Sessions.key header.sessionId)).timely_repeated
    (· = .get (Sessions.key header.sessionId)) [] rfl policy schedule cut
  refine found.mono (fun _ _ shows => shows) ?_ fun _ _ h => h
  intro answer now bench shows
  cases answer with
  | error failure => exact shows
  | ok stored =>
    obtain ⟨pristine, read, after, before, same⟩ := shows.holds
    have answered : (StoreAction.get (Sessions.key header.sessionId), StoreReply.found stored) ∈ bench.answered :=
      shows.answered (List.mem_cons_self ..)
    simp only [ReadRequest.answer]
    cases hrecord : Sessions.record (Sessions.key header.sessionId) stored with
    | error source => exact ⟨shows.asked, List.nil_subset _, pristine⟩
    | ok record => exact ⟨read, stored, after, same, hrecord, shows.asked, shows.answered, pristine, before⟩

def Sent (store : LeaseStore) (begun read : Nat) (key : String) (write : SessionWrite)
    (heard : List (StoreAction × StoreReply)) : Except ClientError Ack → Nat → Bench → Prop
  | .ok ack, now, bench => ack.ok = true ∧
      Shows (fun _ => True) heard (Settled store begun read key write) now bench
  | .error _, now, bench => Shows (fun _ => True) heard (Settling store begun read key write) now bench

theorem timely_sending (sound : store.Sound) (policy : RetryPolicy) (schedule : Nat → Fault)
    (window : ServiceWindow) (reading : Nat → Bench → Nat) {step : Transition} {plan : Plan}
    (hplan : verifier.plan header step = .ok plan) (read : Nat) (heard : List (StoreAction × StoreReply))
    (cut : Nat → Bench → Prop) :
    Timely none
      (Shows (fun _ => True) heard (Settling store begun read (Sessions.key header.sessionId) plan.write))
      (plan.write.send (faultyService policy schedule window reading).client)
      (Sent store begun read (Sessions.key header.sessionId) plan.write heard) cut := by
  have ticking : (faultyService policy schedule window reading).clock = glance reading := rfl
  have answered (write : SessionWrite) :
      Timely none (Shows (fun _ => True) heard (Settling store begun read (Sessions.key header.sessionId) write))
        ((policy.guard Timed.timing (faulty schedule)).call (write.op (Sessions.key header.sessionId)))
        (fun outcome => Sent store begun read (Sessions.key header.sessionId) write heard
          (Ack.answer header.sessionId outcome)) cut := by
    have repeated := (withstands_write sound begun read (Sessions.key header.sessionId) write).timely_repeated
      (fun _ => True) heard trivial policy schedule cut
    refine repeated.mono (fun _ _ shows => shows) ?_ fun _ _ h => h
    intro outcome now bench shows
    cases outcome with
    | error failure => exact shows
    | ok _ => exact ⟨rfl, shows.asked, List.Subset.trans (List.subset_cons_self _ _) shows.answered, shows.holds⟩
  obtain ⟨_, request, _, writes, built⟩ | ⟨request, _, writes, built⟩ := Verifier.plan_cases hplan <;>
    rw [writes]
  · obtain ⟨_, rfl⟩ := UpdateRequest.ofFields_eq_ok_iff.1 built
    exact timely_update ticking (fun _ => answered _) fun _ _ _ shows => shows
  · obtain ⟨_, rfl⟩ := DeleteRequest.ofHeader_eq_ok_iff.1 built
    exact timely_delete ticking (answered (.delete { header })) fun _ _ _ shows => shows

/-- Keys of other sessions show what they did, unless their leases ended. -/
def Aside (store : LeaseStore) (begun : Nat) (key : String) (now : Nat) (bench : Bench) : Prop :=
  ∀ k, k ≠ key → LeaseStore.Kept now (store.seen begun k) (bench.store.seen now k)

theorem verdict_of_sent {step : Transition} {plan : Plan} {read : Nat} {stored : Option StoredValue}
    {record : SessionRecord} (hstep : verifier.table.evaluate method record transport = .ok step)
    (served : step.method = method) (hplan : verifier.plan header step = .ok plan) (after : begun ≤ read)
    (found : stored = (store.seen read (Sessions.key header.sessionId)).map Holding.stored)
    (hrecord : Sessions.record (Sessions.key header.sessionId) stored = .ok record)
    {ack : Except ClientError Ack} {now : Nat} {bench : Bench}
    (sent : Sent store begun read (Sessions.key header.sessionId) plan.write
      [(.get (Sessions.key header.sessionId), .found stored)] ack now bench) :
    Aside store begun (Sessions.key header.sessionId) now bench ∧
      Verdict store begun verifier header method transport (plan.conclude ack) now bench := by
  obtain ⟨reported, tagged, deletes⟩ := Verifier.plan_accepted hplan
  have leaves {time : Nat} {shown : Option Holding} (left : plan.write.Leaves time shown) :
      step.Leaves method time shown := by
    rw [← served]
    exact Verifier.leaves_of_plan hplan left
  have decided (past : read ≤ now)
      (answered : [(StoreAction.get (Sessions.key header.sessionId), StoreReply.found stored)] ⊆ bench.answered) :
      Decided store begun verifier header method transport now bench (.ok step) :=
    ⟨stored, record, answered (List.mem_singleton_self _), ⟨read, after, past, found⟩, hrecord, hstep⟩
  cases ack with
  | error source =>
    have settling := sent.holds
    refine ⟨settling.others, reported.trans served, step, decided settling.past sent.answered, ?_⟩
    obtain same | ⟨written, left, later, past, hleft, shown⟩ := settling.record
    · exact .inl same
    · exact .inr ⟨written, left, Nat.le_trans after later, past, leaves hleft, shown⟩
  | ok ack =>
    obtain ⟨acknowledged, shows⟩ := sent
    have settled := shows.holds
    obtain ⟨written, later, past, hleft⟩ := settled.landed
    refine ⟨settled.others, ?_⟩
    rw [Plan.conclude, if_pos acknowledged]
    exact ⟨step, written, decided settled.past shows.answered, reported.trans served, tagged, deletes,
      Nat.le_trans after later, past, leaves hleft⟩

/-- A verification of a step, whatever faults the attempts at the store meet. A refusal or a failed lookup has
attempted no write and leaves the store to expiry alone. An accepted step has just been written whole, and a step
that was not acknowledged was written whole or not at all. Acceptance and refusal are decided on a record that
the store answered with. -/
theorem verification_all_or_nothing (policy : RetryPolicy) (schedule : Nat → Fault) (window : ServiceWindow)
    (reading : Nat → Bench → Nat) (verifier : Verifier) (header : Header) (method : Method)
    (transport : Transport) {since : Nat} {store : LeaseStore} (reached : LeaseStore.Reached since store)
    {start : Moment Bench} (running : start.Running none) (order : since ≤ start.now)
    (fresh : start.state = { store }) :
    ∃ result stop,
      (verifier.verify (faultyService policy schedule window reading).client header method transport).runFrom
        start = (.ok result, stop) ∧
      Aside store start.now (Sessions.key header.sessionId) stop.now stop.state ∧
      Verdict store start.now verifier header method transport result stop.now stop.state := by
  have upheld := reached.upheld
  have sound := upheld.toSound
  let key := Sessions.key header.sessionId
  let After (result : Except VerifyError AcceptedTransition) (now : Nat) (bench : Bench) : Prop :=
    Aside store start.now key now bench ∧ Verdict store start.now verifier header method transport result now bench
  have verification : Timely none (Shows (· = .get key) [] (Pristine store start.now))
      (verifier.verify (faultyService policy schedule window reading).client header method transport) After
      fun _ _ => False := by
    refine timely_verify (Opened store start.now header) ?_ ?_ ?_ ?_
    · intro violation now bench shows
      refine ⟨fun k _ => shows.holds.kept sound k, ?_⟩
      exact untouched_of_shows shows (fun _ asked => asked) fun _ pristine => pristine
    · intro valid
      exact timely_opening sound policy schedule window reading valid _
    · intro answer failure now bench decided opened
      cases answer with
      | error source =>
        cases decided
        refine ⟨fun k _ => opened.holds.kept sound k, ?_⟩
        exact untouched_of_shows opened (fun _ asked => asked) fun _ pristine => pristine
      | ok response =>
        obtain ⟨read, stored, after, found, hrecord, shows⟩ := opened
        have untouched : Untouched store start.now header now bench :=
          untouched_of_shows shows (fun _ asked => asked) fun _ holds => holds.1
        refine ⟨fun k _ => shows.holds.1.kept sound k, ?_⟩
        obtain ⟨rejection, hstep, rfl⟩ | ⟨violation, rfl⟩ := Verifier.judge_eq_error decided
        · exact ⟨untouched, stored, _, shows.answered (List.mem_singleton_self _),
            ⟨read, after, shows.holds.2, found⟩, hrecord, hstep⟩
        · exact untouched
    · -- what the write leaves depends on when the read was answered, and with what
      intro response plan judged
      obtain ⟨step, hstep, served, hplan⟩ := Verifier.judge_eq_ok judged
      refine Timely.of_start ?_
      rintro time bench ⟨read, stored, after, found, hrecord, shows⟩
      refine (timely_sending sound policy schedule window reading hplan read [(.get key, .found stored)] _).mono
        ?_ (fun ack now bench sent => verdict_of_sent hstep served hplan after found hrecord sent) fun _ _ h => h
      rintro _ _ ⟨rfl, rfl⟩
      refine ⟨fun _ _ => trivial, shows.answered, ?_⟩
      exact shows.holds.1.settling upheld order shows.holds.2 key plan.write
  obtain ⟨result, stop, run, _, aside, verdict⟩ := verification.total running (by
    rw [fresh]
    exact ⟨nofun, List.nil_subset _, Nat.le_refl _, .inl rfl⟩)
  exact ⟨result, stop, run, aside, verdict⟩

end

/-! ### A vote whose removal is not acknowledged -/

def twoVoters : LeaseStore :=
  let choices := RecordText.encode (some .voterChoices) .idCard
  let actions : List (Nat × StoreAction) :=
    [(10, .put "/session/F6" choices .none StageTtls.standard.choice),
      (20, .put "/session/F7" choices .none StageTtls.standard.choice)]
  actions.foldl (fun store action => (store.perform action.1 action.2).2) .empty

/-- The second read is answered, the first removal takes effect without an answer, and the store hangs then. -/
def silentRemoval : Nat → Fault
  | 0 => .fail (.unavailable "reset")
  | 1 => .plain
  | 2 => .loseAnswer "reset"
  | _ => .hang

def voter : Header := { sessionId := ⟨"F6", by decide, by decide, by decide⟩ }

def voting : Verifier := { table := .voteCasting .delete, ttls := .standard }

def silentVote : Except CutOff (Except VerifyError AcceptedTransition) × Moment Bench :=
  (voting.verify (faultyService .standard silentRemoval .always fun _ _ => 0).client voter .vote .tls).runFrom
    { now := 100, state := { store := twoVoters } }

theorem unacknowledged_vote_removes : LeaseStore.Reached 20 twoVoters ∧
    ({ now := 100, state := { store := twoVoters } } : Moment Bench).Running none ∧
    ∃ failure stop, silentVote = (.ok (.error (.notAcknowledged .vote (some failure))), stop) ∧
      Aside twoVoters 100 "/session/F6" stop.now stop.state ∧
      Verdict twoVoters 100 voting voter .vote .tls (.error (.notAcknowledged .vote (some failure)))
        stop.now stop.state ∧
      stop.state.store.seen stop.now "/session/F6" = none := by
  have reached : LeaseStore.Reached 20 twoVoters := .act (.act .start (Nat.zero_le 10) _) (by decide) _
  have running : ({ now := 100, state := { store := twoVoters } } : Moment Bench).Running none :=
    ⟨Nat.zero_le 100, rfl, nofun⟩
  have unacknowledged : silentVote.1 = .ok (.error (.notAcknowledged .vote
      (some (StatusService.refusal voter.sessionId (.timeout 5000))))) := by decide +kernel
  have removed : silentVote.2.state.store.seen silentVote.2.now "/session/F6" = none := by decide +kernel
  obtain ⟨result, stop, run, aside, verdict⟩ := verification_all_or_nothing .standard silentRemoval .always
    (fun _ _ => 0) voting voter .vote .tls reached running (by decide) rfl
  have same : silentVote = (.ok result, stop) := run
  rw [same] at unacknowledged removed
  cases unacknowledged
  exact ⟨reached, running, _, stop, same, aside, verdict, removed⟩

end VoterSession.Scenario
