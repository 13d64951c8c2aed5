import VoterSession.Proofs.Concurrent.Events
import VoterSession.Proofs.Concurrent.Removal
set_option autoImplicit false

/-!
Any number of votes on one session at the same time, while other sessions do what they like. The votes that
read the session before the first write on it are accepted, and all others see that it has been voted on. Main
statement: `concurrent_votes_settle`.
-/
namespace VoterSession

/-! ### Votes -/

/-- A session with this tag may vote after this method. -/
def AuthTag.Votable (tag : AuthTag) (prior : Method) : Prop :=
  prior = .voterChoices ∧ (tag = .idCard ∨ tag = .webEid) ∨
    prior = .signStatus ∧ (tag = .mobileId ∨ tag = .smartId)

theorem AuthTag.Votable.resolved {tag : AuthTag} {prior : Method} (votable : tag.Votable prior) :
    tag.isResolved = true := by
  obtain ⟨_, rfl | rfl⟩ | ⟨_, rfl | rfl⟩ := votable <;> rfl

namespace VoteCompletion

def caller : VoteCompletion → Option Method
  | delete => none
  | handoff => some .vote

def auth (tag : AuthTag) : VoteCompletion → AuthTag
  | delete => .unresolved
  | handoff => tag

end VoteCompletion

structure Call.Ballot (call : Call) (mode : VoteCompletion) : Prop where
  kind : call.kind = .voteCasting
  method : call.method = .vote
  completion : call.completion = mode
  valid : call.header.validate = .ok ()

def Call.voting (call : Call) (mode : VoteCompletion) (tag : AuthTag) (lease : LeaseId) : Plan :=
  match mode with
  | .delete => call.deleting tag lease
  | .handoff => call.updating tag .none

namespace Call.Ballot

variable {call : Call} {mode : VoteCompletion} {tag : AuthTag} {prior : Method}

theorem table_eq (ballot : call.Ballot mode) : call.verifier.table = .voteCasting mode := by
  have built := call.built
  rw [ballot.kind, ballot.completion] at built
  exact (Except.ok.inj built).symm

theorem judge_votable (ballot : call.Ballot mode) (votable : tag.Votable prior) (lease : LeaseId) :
    call.judge ⟨some prior, tag, lease⟩ = .ok (call.voting mode tag lease) := by
  cases mode with
  | delete =>
    have step : call.verifier.table.evaluate call.method ⟨some prior, tag, lease⟩ call.transport =
        .ok ⟨call.method, tag, lease, .delete⟩ := by
      rw [ballot.table_eq, ballot.method]
      obtain ⟨rfl, rfl | rfl⟩ | ⟨rfl, rfl | rfl⟩ := votable <;> rfl
    rw [judge_of_evaluate step]
    exact plan_delete.2 ⟨ballot.valid, rfl⟩
  | handoff =>
    have step : call.verifier.table.evaluate call.method ⟨some prior, tag, lease⟩ call.transport =
        .ok ⟨call.method, tag, .none, .update call.method.stage⟩ := by
      rw [ballot.table_eq, ballot.method]
      obtain ⟨rfl, rfl | rfl⟩ | ⟨rfl, rfl | rfl⟩ := votable <;> rfl
    rw [judge_of_evaluate step]
    exact plan_update.2 ⟨⟨ballot.valid, Int.le_refl 0, votable.resolved⟩, rfl⟩

theorem judge_voted (ballot : call.Ballot mode) (tag : AuthTag) (lease : LeaseId) :
    call.judge ⟨mode.caller, mode.auth tag, lease⟩ =
      .error (.rejected (.invalidCallerOrAuth .vote mode.caller (mode.auth tag))) := by
  have step : call.verifier.table.evaluate call.method ⟨mode.caller, mode.auth tag, lease⟩ call.transport =
      .error (.invalidCallerOrAuth .vote mode.caller (mode.auth tag)) := by
    rw [ballot.table_eq, ballot.method]
    cases mode
    · cases call.transport <;> rfl
    · cases tag <;> rfl
  simp only [judge, Verifier.judge, step]

end Call.Ballot

namespace Concurrent

variable {state : State} {window : ServiceWindow} {id : SessionId}

/-- The message arrives and so does its answer. -/
def Event.Faultless (window : ServiceWindow) : Event → Prop
  | .read _ serviceNow answered | .write _ serviceNow answered =>
    answered = true ∧ window.contains serviceNow = true
  | .fail .. => False
  | .wait _ | .start _ => True

/-! ### Votes on one session -/

def Unwritten (id : SessionId) (entries : List Entry) : Prop :=
  ∀ entry ∈ entries, entry.session = id → ∃ record, entry.deed = .read record

theorem unwritten_nil (id : SessionId) : Unwritten id [] := by simp [Unwritten]

theorem unwritten_append {latest newer : List Entry} :
    Unwritten id (latest ++ newer) ↔ Unwritten id latest ∧ Unwritten id newer := List.forall_mem_append

/-- The votes on a session: the calls that may be among them, the number of calls that were started before, and
what the record is that they find. -/
structure Booth where
  calls : List Call
  base : Nat
  id : SessionId
  mode : VoteCompletion
  prior : Method
  tag : AuthTag
  lease : LeaseId

namespace Booth

variable (booth : Booth)

inductive Cast (newer : List Entry) (i : Nat) (job : Job) : Prop
  | waiting (plan : job.plan = none) (result : job.result = none)
  /-- It read the session before anything was written to it. -/
  | counted (front back : List Entry) (time : Nat) (record : SessionRecord)
      (place : newer = front ++ ⟨i, job.call, time, .read record⟩ :: back)
      (first : Unwritten booth.id back)
      (plan : job.plan = some (job.call.voting booth.mode booth.tag booth.lease))
      (result : job.result = none ∨ ¬ Unwritten booth.id newer ∧
        job.result = some (.ok (job.call.voting booth.mode booth.tag booth.lease).accepted))
  /-- It read the session after that. -/
  | late (front back : List Entry) (time : Nat) (record : SessionRecord)
      (place : newer = front ++ ⟨i, job.call, time, .read record⟩ :: back)
      (written : ¬ Unwritten booth.id back) (plan : job.plan = none)
      (result : job.result = some (.error (.rejected
        (.invalidCallerOrAuth .vote booth.mode.caller (booth.mode.auth booth.tag)))))

def Left (shown : Option Holding) : Prop :=
  match booth.mode with
  | .delete => shown = none
  | .handoff => ∃ holding, shown = some holding ∧ holding.value = RecordText.encode (some .vote) booth.tag ∧
      holding.lease ≠ booth.lease ∧ ∃ call ∈ booth.calls, call.session = booth.id ∧
        holding.ttl = (call.verifier.ttls.ttl .verify).millis

structure Polls (i : Nat) (job : Job) : Prop where
  started : booth.base ≤ i
  session : job.call.session = booth.id

/-- The invariant of the votes: `newer` is the history since they began. -/
structure Holds (newer : List Entry) (state : State) : Prop where
  votes : ∀ {i : Nat} {job : Job}, state.jobs[i]? = some job → booth.Polls i job →
    job.call ∈ booth.calls ∧ job.call.Ballot booth.mode ∧ booth.Cast newer i job
  granted : ∃ auth stage, Granted state.history booth.lease booth.id auth stage
  record : (Unwritten booth.id newer ∧ ∃ holding,
      state.store.seen state.now (Sessions.key booth.id) = some holding ∧
      holding.value = RecordText.encode (some booth.prior) booth.tag ∧ holding.lease = booth.lease) ∨
    ¬ Unwritten booth.id newer ∧ booth.Left (state.store.seen state.now (Sessions.key booth.id)) ∧
      ∃ i job accepted, state.jobs[i]? = some job ∧ booth.Polls i job ∧ job.result = some (.ok accepted)

def Onward (newer : List Entry) (state next : State) : Prop :=
  ∃ latest, next.history = latest ++ state.history ∧ booth.Holds (latest ++ newer) next

structure Allows (window : ServiceWindow) (state : State) (event : Event) : Prop where
  ballot : ∀ call, event = .start call → call.session = booth.id →
    call ∈ booth.calls ∧ call.Ballot booth.mode
  message : ∀ i job, event.job? = some i → state.jobs[i]? = some job → job.call.session = booth.id →
    booth.base ≤ i ∧ event.Faultless window
  lasting : ∀ millis holding, event = .wait millis →
    state.store.seen state.now (Sessions.key booth.id) = some holding → state.now + millis < holding.deadline

variable {booth : Booth} {newer : List Entry} {i : Nat} {job other : Job} {holding : Holding}

theorem Left.moved (left : booth.Left (some holding)) : holding.lease ≠ booth.lease := by
  unfold Left at left
  split at left
  · cases left
  · obtain ⟨_, ⟨⟩, _, moved, _⟩ := left
    exact moved

theorem Cast.grow (cast : booth.Cast newer i job) (latest : List Entry) : booth.Cast (latest ++ newer) i job := by
  cases cast with
  | waiting plan result => exact .waiting plan result
  | counted front back time record place first plan result =>
    refine .counted (latest ++ front) back time record (by rw [place, List.append_assoc]) first plan ?_
    refine result.imp_right fun told => ⟨?_, told.2⟩
    exact fun quiet => told.1 (unwritten_append.1 quiet).2
  | late front back time record place written plan result =>
    exact .late (latest ++ front) back time record (by rw [place, List.append_assoc]) written plan result

theorem votes_of_set (holds : booth.Holds newer state) (hjob : state.jobs[i]? = some job) (polls : booth.Polls i job)
    (same : other.call = job.call) (latest : List Entry) (cast : booth.Cast (latest ++ newer) i other) {j : Nat}
    {found : Job} (h : (state.jobs.set i other)[j]? = some found) (polled : booth.Polls j found) :
    found.call ∈ booth.calls ∧ found.call.Ballot booth.mode ∧ booth.Cast (latest ++ newer) j found := by
  by_cases here : i = j
  · subst here
    rw [List.getElem?_set_self (List.getElem?_eq_some_iff.1 hjob).1] at h
    cases h
    obtain ⟨member, ballot, _⟩ := holds.votes hjob polls
    rw [same]
    exact ⟨member, ballot, cast⟩
  · rw [List.getElem?_set_ne here] at h
    obtain ⟨member, ballot, before⟩ := holds.votes h polled
    exact ⟨member, ballot, before.grow latest⟩

theorem Holds.stays (holds : booth.Holds newer state) : booth.Onward newer state state := ⟨[], rfl, holds⟩

/-! ### An event that is no message of a vote -/

theorem Holds.aside (holds : booth.Holds newer state) (kept : state.store.Sound ∧ Ledger state) {event : Event}
    (allows : booth.Allows window state event)
    (apart : ∀ i job, event.job? = some i → state.jobs[i]? = some job → job.call.session ≠ booth.id) :
    booth.Onward newer state (state.step window event) := by
  obtain ⟨latest, history, entries⟩ := @entries_of_step state window event
  have elsewhere : Unwritten booth.id latest := by
    intro entry member here
    obtain ⟨about, job, hjob, same⟩ := entries entry member
    refine absurd ?_ (apart _ job about hjob)
    rw [same]
    exact here
  have shown : (state.step window event).store.seen (state.step window event).now (Sessions.key booth.id) =
      state.store.seen state.now (Sessions.key booth.id) := by
    by_cases waits : ∃ millis, event = .wait millis
    · obtain ⟨millis, rfl⟩ := waits
      have later := kept.1.seen_later (Nat.le_add_right state.now millis) (Sessions.key booth.id)
      cases before : state.store.seen state.now (Sessions.key booth.id) with
      | none =>
        rw [before] at later
        exact later
      | some holding =>
        rw [before] at later
        refine later.trans ?_
        simp [Option.filter, allows.lasting millis holding rfl before]
    · obtain ⟨now, same⟩ := @seen_of_step state window booth.id kept event
        (fun millis same => waits ⟨millis, same⟩) apart
      rw [now]
      exact same
  have jobs : ∀ {j found}, (state.step window event).jobs[j]? = some found → booth.Polls j found →
      state.jobs[j]? = some found ∨ ∃ call, event = .start call ∧ found = .opened call := by
    intro j found h polled
    obtain same | started | ⟨about, job, hjob, same⟩ := job_of_step h
    · exact .inl same
    · exact .inr started
    · refine absurd ?_ (apart j job about hjob)
      rw [same]
      exact polled.session
  refine ⟨latest, history, ?_, ?_, ?_⟩
  · intro j found h polled
    obtain same | ⟨call, started, rfl⟩ := jobs h polled
    · obtain ⟨member, ballot, cast⟩ := holds.votes same polled
      exact ⟨member, ballot, cast.grow latest⟩
    · have session := polled.session
      rw [Job.opened_call] at session
      obtain ⟨member, ballot⟩ := allows.ballot call started session
      have opening := Verifier.opening_eq_ok_iff.2 ⟨ballot.valid, rfl⟩
      rw [Job.opened_call]
      exact ⟨member, ballot, .waiting (Job.opened_plan call) (by rw [Job.opened, opening])⟩
  · obtain ⟨auth, stage, granted⟩ := holds.granted
    rw [history]
    exact ⟨auth, stage, granted.mono (List.suffix_append _ _)⟩
  · rw [shown, unwritten_append]
    obtain ⟨first, found⟩ | ⟨written, left, j, voted, accepted, hvoted, polled, result⟩ := holds.record
    · exact .inl ⟨⟨elsewhere, first⟩, found⟩
    · refine .inr ⟨fun quiet => written quiet.2, left, j, voted, accepted, ?_, polled, result⟩
      refine job_stays hvoted fun about => ?_
      exact apart j voted about hvoted polled.session

/-! ### The messages of a vote -/

theorem Left.record {shown : Option Holding} (left : booth.Left shown) :
    ∃ lease, Sessions.record (Sessions.key booth.id) (shown.map Holding.stored) =
      .ok ⟨booth.mode.caller, booth.mode.auth booth.tag, lease⟩ := by
  unfold Left at left
  cases mode : booth.mode with
  | delete =>
    rw [mode] at left
    rw [left]
    exact ⟨.none, rfl⟩
  | handoff =>
    rw [mode] at left
    obtain ⟨holding, rfl, value, _⟩ := left
    refine ⟨holding.lease, ?_⟩
    simp only [Option.map_some, Sessions.record, Holding.stored, value, RecordText.decode_encode]
    rfl

theorem Holds.told (holds : booth.Holds newer state) (votable : booth.tag.Votable booth.prior)
    (hjob : state.jobs[i]? = some job) (polls : booth.Polls i job) (waits : job.Waits) : ∃ record,
    Sessions.record (Sessions.key job.call.header.sessionId)
      ((state.store.seen state.now (Sessions.key job.call.header.sessionId)).map Holding.stored) = .ok record ∧
    booth.Cast (⟨i, job.call, state.now, .read record⟩ :: newer) i
      (job.judged (.ok { header := job.call.header, record })) := by
  obtain ⟨_, ballot, _⟩ := holds.votes hjob polls
  have same : Sessions.key job.call.header.sessionId = Sessions.key booth.id :=
    congrArg Sessions.key polls.session
  rw [same]
  obtain ⟨first, holding, shown, value, lease⟩ | ⟨written, left, _⟩ := holds.record
  · refine ⟨⟨some booth.prior, booth.tag, booth.lease⟩, ?_, ?_⟩
    · simp only [shown, Option.map_some, Sessions.record, Holding.stored, value, lease, RecordText.decode_encode]
    · rw [Job.judged_of_judge, ballot.judge_votable votable booth.lease]
      exact .counted [] newer state.now _ rfl first rfl (.inl waits.2.1)
  · obtain ⟨lease, found⟩ := left.record
    refine ⟨_, found, ?_⟩
    rw [Job.judged_of_judge, ballot.judge_voted]
    exact .late [] newer state.now _ rfl written waits.1 rfl

theorem Holds.read (holds : booth.Holds newer state) (kept : state.store.Sound ∧ Ledger state)
    (votable : booth.tag.Votable booth.prior) (hjob : state.jobs[i]? = some job) (polls : booth.Polls i job)
    {serviceNow : Nat} (opened : window.contains serviceNow = true) :
    booth.Onward newer state (state.step window (.read i serviceNow true)) := by
  by_cases waits : job.Waits
  · obtain ⟨record, found, told⟩ := holds.told votable hjob polls waits
    refine ⟨[⟨i, job.call, state.now, .read record⟩], ?_⟩
    rw [State.step, State.read_found kept.1 hjob waits opened found]
    refine ⟨rfl, ?_, ?_, ?_⟩
    · intro j other h polled
      exact votes_of_set holds hjob polls (job.judged_call _) [_] told h polled
    · obtain ⟨auth, stage, granted⟩ := holds.granted
      exact ⟨auth, stage, granted.mono (List.suffix_cons _ _)⟩
    · have still : Unwritten booth.id ([⟨i, job.call, state.now, .read record⟩] ++ newer) ↔
          Unwritten booth.id newer := by
        rw [unwritten_append]
        exact and_iff_right fun entry here _ => ⟨record, by rw [List.mem_singleton.1 here]⟩
      rw [still]
      simp only [kept.1.seen_now_purge]
      refine holds.record.imp_right fun after => ⟨after.1, after.2.1, ?_⟩
      -- the vote that was accepted is not this one, which is still to be answered
      obtain ⟨j, voted, accepted, hvoted, polled, result⟩ := after.2.2
      refine ⟨j, voted, accepted, ?_, polled, result⟩
      rw [List.getElem?_set_ne]
      · exact hvoted
      · rintro rfl
        rw [hjob] at hvoted
        cases hvoted
        rw [waits.2.1] at result
        cases result
  · rw [State.step, State.read_of_not_waits]
    · exact holds.stays
    · intro other hother
      rw [hjob] at hother
      cases hother
      exact waits

theorem voting_lands (kept : state.store.Sound ∧ Ledger state) {call : Call} (member : call ∈ booth.calls)
    (ballot : call.Ballot booth.mode) (session : call.session = booth.id)
    (votable : booth.tag.Votable booth.prior) {auth : AuthTag} {stage : Stage}
    (granted : Granted state.history booth.lease booth.id auth stage) {serviceNow : Nat}
    (opened : window.contains serviceNow = true) :
    ∃ after, (call.voting booth.mode booth.tag booth.lease).write.deliver window serviceNow state.now state.store =
        (.ok .done, after) ∧ booth.Left (after.seen state.now (Sessions.key booth.id)) := by
  have same : Sessions.key booth.id = Sessions.key call.header.sessionId := congrArg Sessions.key session.symm
  unfold Left
  cases booth.mode with
  | delete =>
    have valid : ({ header := call.header } : DeleteRequest).validate = .ok () :=
      DeleteRequest.validate_of_header ballot.valid
    obtain ⟨after, delivered, removed⟩ := @SessionWrite.deliver_delete window serviceNow state.now state.store
      kept.1 _ opened valid
    exact ⟨after, delivered, (removed.seen _).trans (if_pos same)⟩
  | handoff =>
    have valid := Call.request_valid ballot.valid votable.resolved (Int.le_refl 0)
    obtain ⟨after, delivered, written⟩ := SessionWrite.deliver_fresh kept.1 state.now opened valid rfl
    refine ⟨after, delivered, _, (written.seen _).trans (if_pos same), ?_, ?_, call, member, session, ?_⟩
    · simp only [Call.request, ballot.method]
    · -- the new lease comes after all that were granted
      have numbered := kept.2.numbered granted
      intro old
      rw [← old] at numbered
      simp only at numbered
      omega
    · simp only [Call.request, Call.lifetime, ballot.method, Method.stage]

theorem Holds.write (holds : booth.Holds newer state) (kept : state.store.Sound ∧ Ledger state)
    (votable : booth.tag.Votable booth.prior) (hjob : state.jobs[i]? = some job) (polls : booth.Polls i job)
    {serviceNow : Nat} (opened : window.contains serviceNow = true) :
    booth.Onward newer state (state.step window (.write i serviceNow true)) := by
  obtain ⟨member, ballot, cast⟩ := holds.votes hjob polls
  have unplanned (no_plan : job.plan = none) :
      booth.Onward newer state (state.step window (.write i serviceNow true)) := by
    simp only [State.step, State.write, hjob, no_plan]
    exact holds.stays
  cases cast with
  | waiting no_plan _ => exact unplanned no_plan
  | late _ _ _ _ _ _ no_plan _ => exact unplanned no_plan
  | counted front back time record place first plan result =>
    obtain ⟨auth, stage, granted⟩ := holds.granted
    obtain ⟨after, delivered, left⟩ := voting_lands kept member ballot polls.session votable granted opened
    let vote := job.call.voting booth.mode booth.tag booth.lease
    let entry : Entry := ⟨i, job.call, state.now, .ofWrite state.now after vote.write⟩
    have written : ¬ Unwritten booth.id ([entry] ++ newer) := by
      intro quiet
      obtain ⟨record, read⟩ := quiet entry List.mem_cons_self polls.session
      simp only [entry] at read
      cases asks : vote.write <;> rw [asks] at read <;> cases read
    have told := Job.concluded_done (result.imp_right And.right)
    have counted : booth.Cast ([entry] ++ newer) i (job.concluded vote (.ok .done)) := by
      refine .counted (entry :: front) back time record ?_ first ?_ (.inr ⟨written, ?_⟩)
      · rw [Job.concluded_call, place]
        rfl
      · rw [Job.concluded_call, Job.concluded_plan]
        exact plan
      · rw [Job.concluded_call]
        exact told
    refine ⟨[entry], ?_⟩
    rw [State.step, State.write_of_job serviceNow true hjob plan, delivered]
    refine ⟨rfl, ?_, ?_, ?_⟩
    · intro j other h polled
      exact votes_of_set holds hjob polls (job.concluded_call _ _) [entry] counted h polled
    · exact ⟨auth, stage, granted.mono (List.suffix_cons _ _)⟩
    · have inside := (List.getElem?_eq_some_iff.1 hjob).1
      refine .inr ⟨written, left, i, job.concluded vote (.ok .done), vote.accepted, ?_, ?_, told⟩
      · exact List.getElem?_set_self inside
      · exact ⟨polls.started, by rw [Job.concluded_call]; exact polls.session⟩

/-! ### A run -/

theorem Holds.step (holds : booth.Holds newer state) (kept : state.store.Sound ∧ Ledger state)
    (votable : booth.tag.Votable booth.prior) {event : Event} (allows : booth.Allows window state event) :
    booth.Onward newer state (state.step window event) := by
  by_cases mine : ∃ i job, event.job? = some i ∧ state.jobs[i]? = some job ∧ job.call.session = booth.id
  · obtain ⟨i, job, about, hjob, session⟩ := mine
    obtain ⟨started, faultless⟩ := allows.message i job about hjob session
    cases event with
    | wait millis => cases about
    | start call => cases about
    | fail j failure => exact False.elim faultless
    | read j serviceNow answered =>
      cases about
      obtain ⟨rfl, opened⟩ := faultless
      exact holds.read kept votable hjob ⟨started, session⟩ opened
    | write j serviceNow answered =>
      cases about
      obtain ⟨rfl, opened⟩ := faultless
      exact holds.write kept votable hjob ⟨started, session⟩ opened
  · exact holds.aside kept allows fun i job about hjob session => mine ⟨i, job, about, hjob, session⟩

end Booth

/-- After `events`, nothing but votes of one mode is asked of the session while `more` happens. All their messages
arrive while the service is open, and no lease of the session ends meanwhile. -/
structure Polling (window : ServiceWindow) (events more : List Event) (id : SessionId) (mode : VoteCompletion) :
    Prop where
  ballots : ∀ call, .start call ∈ more → call.session = id → call.Ballot mode
  messages : ∀ event ∈ more, ∀ i call, event.job? = some i → (calls (events ++ more))[i]? = some call →
    call.session = id → (calls events).length ≤ i ∧ event.Faultless window
  lasting : ∀ past millis rest holding, more = past ++ .wait millis :: rest →
    (run window (events ++ past)).store.seen (run window (events ++ past)).now (Sessions.key id) = some holding →
      (run window (events ++ past)).now + millis < holding.deadline

def Polling.booth (events more : List Event) (id : SessionId) (mode : VoteCompletion) (prior : Method)
    (tag : AuthTag) (holding : Holding) : Booth where
  calls := calls more
  base := (calls events).length
  id := id
  mode := mode
  prior := prior
  tag := tag
  lease := holding.lease

section Run

variable {events more : List Event} {mode : VoteCompletion} {prior : Method} {tag : AuthTag} {holding : Holding}

theorem mem_calls {call : Call} : call ∈ calls events ↔ .start call ∈ events := by
  unfold calls
  rw [List.mem_filterMap]
  constructor
  · rintro ⟨event, member, found⟩
    split at found
    · cases found
      exact member
    · cases found
  · intro member
    exact ⟨_, member, rfl⟩

theorem Polling.allows (polling : Polling window events more id mode) {past rest : List Event} {event : Event}
    (place : more = past ++ event :: rest) (prior : Method) (tag : AuthTag) (holding : Holding) :
    (Polling.booth events more id mode prior tag holding).Allows window (run window (events ++ past)) event where
  ballot := by
    rintro call rfl session
    have member : Event.start call ∈ more := by
      rw [place]
      exact List.mem_append_right _ List.mem_cons_self
    exact ⟨mem_calls.2 member, polling.ballots call member session⟩
  message := by
    intro i job about hjob session
    have member : event ∈ more := by
      rw [place]
      exact List.mem_append_right _ List.mem_cons_self
    have found : (calls (events ++ more))[i]? = some job.call := by
      have early : (calls (events ++ past))[i]? = some job.call := by
        rw [← calls_run window, List.getElem?_map, hjob]
        rfl
      have inside := (List.getElem?_eq_some_iff.1 early).1
      rw [place, ← List.append_assoc, calls_append, List.getElem?_append_left inside]
      exact early
    exact polling.messages event member i job.call about found session
  lasting := by
    rintro millis shown rfl seen
    exact polling.lasting past millis rest shown place seen

theorem Polling.onward (polling : Polling window events more id mode) (votable : tag.Votable prior)
    (shown : (run window events).store.seen (run window events).now (Sessions.key id) = some holding)
    (written : holding.value = RecordText.encode (some prior) tag) {past : List Event} (within : past <+: more) :
    (Polling.booth events more id mode prior tag holding).Onward [] (run window events)
      (run window (events ++ past)) := by
  induction past using List.reverseRecOn with
  | nil =>
    rw [List.append_nil]
    obtain ⟨_, ledger⟩ := ledger_run window events
    obtain ⟨landing, _, _, _, granted⟩ := ledger.granted shown
    refine ⟨[], rfl, ?_, ⟨_, _, granted⟩, .inl ⟨unwritten_nil id, holding, shown, written, rfl⟩⟩
    intro i job hjob polls
    -- no vote has started yet
    have inside := (List.getElem?_eq_some_iff.1 hjob).1
    have counted : (calls events).length = (run window events).jobs.length := by
      rw [← calls_run window, List.length_map]
    have late := polls.started
    simp only [Polling.booth] at late
    omega
  | append_singleton past event ih =>
    obtain ⟨rest, place⟩ := within
    rw [List.append_assoc, List.singleton_append] at place
    obtain ⟨newer, history, holds⟩ := ih ⟨_, place⟩
    obtain ⟨latest, grown, next⟩ := holds.step (ledger_run window (events ++ past)) votable
      (polling.allows place.symm prior tag holding)
    rw [← List.append_assoc, run_concat]
    refine ⟨latest ++ newer, ?_, ?_⟩
    · rw [grown, history, List.append_assoc]
    · rw [List.append_assoc]
      exact next

theorem Booth.Cast.written {booth : Booth} {newer : List Entry} {i : Nat} {job : Job}
    (cast : booth.Cast newer i job) (answered : job.result ≠ none) : ¬ Unwritten booth.id newer := by
  cases cast with
  | waiting _ result => exact absurd result answered
  | counted _ _ _ _ _ _ _ result =>
    obtain waiting | ⟨written, _⟩ := result
    · exact absurd waiting answered
    · exact written
  | late front back time record place written =>
    intro quiet
    rw [place, unwritten_append, ← List.singleton_append, unwritten_append] at quiet
    exact written quiet.2.2

theorem Booth.Cast.decided {booth : Booth} {newer : List Entry} {i : Nat} {job : Job}
    (cast : booth.Cast newer i job) (answered : job.result ≠ none) : ∃ front back time record,
    newer = front ++ ⟨i, job.call, time, .read record⟩ :: back ∧
    ((∃ accepted, job.result = some (.ok accepted)) ↔ Unwritten booth.id back) ∧
    (Unwritten booth.id back →
      job.result = some (.ok (job.call.voting booth.mode booth.tag booth.lease).accepted)) ∧
    (¬ Unwritten booth.id back → job.result = some (.error (.rejected
      (.invalidCallerOrAuth .vote booth.mode.caller (booth.mode.auth booth.tag))))) := by
  cases cast with
  | waiting _ result => exact absurd result answered
  | counted front back time record place first _ result =>
    obtain waiting | ⟨_, result⟩ := result
    · exact absurd waiting answered
    · exact ⟨front, back, time, record, place, ⟨fun _ => first, fun _ => ⟨_, result⟩⟩, fun _ => result,
        fun late => absurd first late⟩
  | late front back time record place late _ result =>
    refine ⟨front, back, time, record, place, ⟨?_, fun first => absurd first late⟩,
      fun first => absurd first late, fun _ => result⟩
    rintro ⟨accepted, other⟩
    rw [result] at other
    cases other

theorem job_of_start {call : Call} (member : .start call ∈ more) :
    ∃ i job, (run window (events ++ more)).jobs[i]? = some job ∧ (calls events).length ≤ i ∧ job.call = call := by
  obtain ⟨n, hn⟩ := List.mem_iff_getElem?.1 (mem_calls.2 member)
  have found : (calls (events ++ more))[(calls events).length + n]? = some call := by
    rw [calls_append, List.getElem?_append_right (Nat.le_add_right _ _), Nat.add_sub_cancel_left]
    exact hn
  rw [← calls_run window, List.getElem?_map] at found
  obtain ⟨job, hjob, same⟩ := Option.map_eq_some_iff.1 found
  exact ⟨_, job, hjob, Nat.le_add_right _ _, same⟩

/-- Any number of votes on a session that may vote, one or more, whatever the order of their messages and whatever
other sessions do meanwhile. A vote is accepted if and only if it read the session before the first write of a vote
landed on it; every other one is told that the session has been voted on, and at least one is accepted. In the end
the session has no record, or the one record that a handed over vote leaves, and no other lease that it ever had
is live. -/
theorem concurrent_votes_settle (window : ServiceWindow) (events more : List Event) (id : SessionId)
    (mode : VoteCompletion) {prior : Method} {tag : AuthTag} {holding : Holding} (votable : tag.Votable prior)
    (shown : (run window events).store.seen (run window events).now (Sessions.key id) = some holding)
    (written : holding.value = RecordText.encode (some prior) tag) (polling : Polling window events more id mode)
    (asked : ∃ call, .start call ∈ more ∧ call.session = id)
    (answered : ∀ i job, (run window (events ++ more)).jobs[i]? = some job → (calls events).length ≤ i →
      job.call.session = id → job.result ≠ none) :
    ∃ newer, (run window (events ++ more)).history = newer ++ (run window events).history ∧
      (∀ i job, (run window (events ++ more)).jobs[i]? = some job → (calls events).length ≤ i →
        job.call.session = id → ∃ front back time record,
        newer = front ++ ⟨i, job.call, time, .read record⟩ :: back ∧
        ((∃ accepted, job.result = some (.ok accepted)) ↔ Unwritten id back) ∧
        (Unwritten id back →
          job.result = some (.ok (job.call.voting mode tag holding.lease).accepted)) ∧
        (¬ Unwritten id back → job.result = some (.error (.rejected
          (.invalidCallerOrAuth .vote mode.caller (mode.auth tag)))))) ∧
      (∃ i job accepted, (run window (events ++ more)).jobs[i]? = some job ∧ (calls events).length ≤ i ∧
        job.call.session = id ∧ job.result = some (.ok accepted)) ∧
      (match mode, (run window (events ++ more)).store.seen (run window (events ++ more)).now (Sessions.key id) with
        | .delete, left => left = none
        | .handoff, left => ∃ verified, left = some verified ∧
            verified.value = RecordText.encode (some .vote) tag ∧
            ∃ call, .start call ∈ more ∧ call.session = id ∧
              verified.ttl = (call.verifier.ttls.ttl .verify).millis) ∧
      ¬ (run window (events ++ more)).store.Alive (run window (events ++ more)).now holding.lease ∧
      ∀ lease auth stage, Granted (run window (events ++ more)).history lease id auth stage →
        (run window (events ++ more)).store.Alive (run window (events ++ more)).now lease →
        (run window (events ++ more)).OnLease id lease := by
  obtain ⟨newer, history, holds⟩ := polling.onward votable shown written (List.prefix_refl more)
  rw [List.append_nil] at holds
  obtain ⟨_, ledger⟩ := ledger_run window (events ++ more)
  have casts : ∀ i job, (run window (events ++ more)).jobs[i]? = some job → (calls events).length ≤ i →
      job.call.session = id → (Polling.booth events more id mode prior tag holding).Cast newer i job :=
    fun i job hjob started session => (holds.votes hjob ⟨started, session⟩).2.2
  have decided : ¬ Unwritten id newer := by
    obtain ⟨call, member, session⟩ := asked
    obtain ⟨i, job, hjob, started, rfl⟩ := @job_of_start window events more call member
    exact (casts i job hjob started session).written (answered i job hjob started session)
  obtain ⟨quiet, _⟩ | ⟨_, left, i, job, accepted, hjob, polls, result⟩ := holds.record
  · exact absurd quiet decided
  refine ⟨newer, history, ?_, ⟨i, job, accepted, hjob, polls.started, polls.session, result⟩, ?_, ?_, ?_⟩
  · intro j vote hvote started session
    exact (casts j vote hvote started session).decided (answered j vote hvote started session)
  · unfold Booth.Left Polling.booth at left
    cases mode with
    | delete => exact left
    | handoff =>
      obtain ⟨verified, same, value, _, call, member, session, ttl⟩ := left
      exact ⟨verified, same, value, call, mem_calls.1 member, session, ttl⟩
  · obtain ⟨auth, stage, granted⟩ := holds.granted
    intro alive
    obtain ⟨last, seen, same⟩ := (ledger.alive_iff granted).1 alive
    rw [seen] at left
    exact left.moved same
  · intro lease auth stage granted alive
    exact (ledger.alive_iff granted).1 alive

end Run

def chosenSession : List Event := alone 0 0 cardCall

/-- Two votes that read the session before either of them writes, and a third one that is late. -/
def crowdedVote (call : Call) : List Event :=
  [.start call, .start call, .read 1 0 true, .read 2 0 true, .wait 1000, .write 2 0 true, .start call,
    .read 3 0 true, .write 1 0 true]

def handoffCall : Call :=
  { voteCall with
    completion := .handoff
    verifier := { table := .voteCasting .handoff, ttls := .standard }
    built := rfl }

theorem crowded_polling {call : Call} {mode : VoteCompletion} (ballot : call.Ballot mode)
    (fresh : (((run .always (chosenSession ++ (crowdedVote call).take 4)).store.seen
      (run .always (chosenSession ++ (crowdedVote call).take 4)).now call.key).all fun holding =>
        (run .always (chosenSession ++ (crowdedVote call).take 4)).now + 1000 < holding.deadline) = true) :
    Polling .always chosenSession (crowdedVote call) call.session mode where
  ballots := by
    intro other member _
    simp only [crowdedVote, List.mem_cons, Event.start.injEq, reduceCtorEq, false_or, or_false,
      List.not_mem_nil] at member
    obtain rfl | rfl | rfl := member <;> exact ballot
  messages := by
    intro event member i other about _ _
    have begun : (calls chosenSession).length = 1 := rfl
    rw [begun]
    simp only [crowdedVote, List.mem_cons, List.not_mem_nil, or_false] at member
    obtain rfl | rfl | rfl | rfl | rfl | rfl | rfl | rfl | rfl := member <;> cases about <;>
      exact ⟨by decide, rfl, rfl⟩
  lasting := by
    intro past millis rest holding place shown
    obtain ⟨rfl, rfl⟩ : past = (crowdedVote call).take 4 ∧ millis = 1000 := by
      simp only [crowdedVote, List.cons_eq_append_iff, List.nil_eq_append_iff, List.cons.injEq, Event.wait.injEq,
        reduceCtorEq, false_and, and_false, false_or, or_false, exists_false] at place
      obtain ⟨_, rfl, _, rfl, _, rfl, _, rfl, rfl, rfl, _⟩ := place
      exact ⟨rfl, rfl⟩
    rw [Call.key, shown] at fresh
    exact of_decide_eq_true fresh

theorem crowded_votes_settle :
    ∃ left, (run .always chosenSession).store.seen (run .always chosenSession).now voteCall.key = some left ∧
      Polling .always chosenSession (crowdedVote voteCall) voteCall.session .delete ∧
      (run .always (chosenSession ++ crowdedVote voteCall)).store.seen
        (run .always (chosenSession ++ crowdedVote voteCall)).now voteCall.key = none ∧
      ¬ (run .always (chosenSession ++ crowdedVote voteCall)).store.Alive
        (run .always (chosenSession ++ crowdedVote voteCall)).now left.lease ∧
      Polling .always chosenSession (crowdedVote handoffCall) handoffCall.session .handoff ∧
      (∃ verified, (run .always (chosenSession ++ crowdedVote handoffCall)).store.seen
          (run .always (chosenSession ++ crowdedVote handoffCall)).now handoffCall.key = some verified ∧
        verified.value = RecordText.encode (some .vote) .idCard) ∧
      ¬ (run .always (chosenSession ++ crowdedVote handoffCall)).store.Alive
        (run .always (chosenSession ++ crowdedVote handoffCall)).now left.lease := by
  have chosen : (((run .always chosenSession).store.seen (run .always chosenSession).now voteCall.key).map
      Holding.value) = some (RecordText.encode (some .voterChoices) .idCard) := by decide +kernel
  obtain ⟨left, shown, written⟩ := Option.map_eq_some_iff.1 chosen
  have votable : AuthTag.idCard.Votable .voterChoices := .inl ⟨rfl, .inl rfl⟩
  have deleting : Polling .always chosenSession (crowdedVote voteCall) voteCall.session .delete :=
    crowded_polling ⟨rfl, rfl, rfl, by decide⟩ (by decide +kernel)
  have handing : Polling .always chosenSession (crowdedVote handoffCall) handoffCall.session .handoff :=
    crowded_polling ⟨rfl, rfl, rfl, by decide⟩ (by decide +kernel)
  have answered (call : Call) (told : ((run .always (chosenSession ++ crowdedVote call)).jobs.all fun job =>
      job.result.isSome) = true) : ∀ i job, (run .always (chosenSession ++ crowdedVote call)).jobs[i]? = some job →
      (calls chosenSession).length ≤ i → job.call.session = call.session → job.result ≠ none := by
    intro i job hjob _ _ silent
    have answered := List.all_eq_true.1 told job (List.mem_of_getElem? hjob)
    rw [silent] at answered
    cases answered
  obtain ⟨_, _, _, _, gone, ended, _⟩ := concurrent_votes_settle .always chosenSession (crowdedVote voteCall)
    voteCall.session .delete votable shown written deleting ⟨voteCall, List.mem_cons_self, rfl⟩
    (answered voteCall (by decide +kernel))
  obtain ⟨_, _, _, _, ⟨verified, kept, value, _⟩, fenced, _⟩ := concurrent_votes_settle .always chosenSession
    (crowdedVote handoffCall) handoffCall.session .handoff votable shown written handing
    ⟨handoffCall, List.mem_cons_self, rfl⟩ (answered handoffCall (by decide +kernel))
  exact ⟨left, shown, deleting, gone, ended, handing, ⟨verified, kept, value⟩, fenced⟩

end Concurrent

end VoterSession
