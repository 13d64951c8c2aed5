import VoterSession.Proofs.Scenario.Corruption
import VoterSession.Proofs.Store.Neighbours
set_option autoImplicit false

/-!
A front end that polls. Each poll starts the lease of the session anew and changes nothing else, so a session lives
for as long as the polls come before its lease has run out, and a poll that comes too late finds no session any
more. Main statement: `polls_keep_the_session`.
-/
namespace VoterSession

namespace Scenario

open Timed

/-! ### One verification without a fault -/

section

variable (setup : Setup) {start : Moment World}

theorem runFrom_serve_renewal {request : UpdateRequest} {holding : Holding} (sound : start.state.store.Sound)
    (faultless : start.state.events = []) (opened : setup.window.contains start.state.serviceNow = true)
    (valid : request.validate = .ok ())
    (shown : start.state.store.seen start.now (Sessions.key request.header.sessionId) = some holding)
    (named : request.lease = holding.lease) :
    ∃ store, (setup.service.serve (.update request)).runFrom start = (.ok (.ok .done), afterAttempt start store) ∧
      store.Sound ∧ store.lastLease = start.state.store.lastLease ∧
      store.seen start.now (Sessions.key request.header.sessionId) =
        some ⟨RecordText.encode (some request.caller) request.auth, holding.lease, holding.ttl,
          start.now + holding.ttl⟩ := by
  obtain ⟨store, answered, kept, counted, seen⟩ := @LeaseStore.Sound.step_put_alive start.state.store sound start.now
    (Sessions.key request.header.sessionId) _ holding (RecordText.encode (some request.caller) request.auth)
    request.ttl shown
  rw [← named] at answered
  have written := runFrom_store setup faultless answered
  refine ⟨store, ?_, kept, counted, ?_⟩
  · rw [runFrom_serve setup opened (show (StatusCall.update request).validate = .ok () from valid)]
    simp only [StatusService.perform, Sessions.update, runFrom_bind, written, runFrom_pure]
  · rw [seen, if_pos rfl]

theorem runFrom_client_of_serve {α : Type} {call : StatusCall α} {answer : Except ServiceError α} {stop : Moment World}
    (served : (setup.service.serve call).runFrom start = (.ok answer, stop)) :
    (setup.service.client.call call).runFrom start = (.ok (answer.mapError ClientError.ofService), stop) := by
  rw [client_call_eq_map, runFrom_map, served]
  rfl

theorem runFrom_verify_of_read {call : Call} {response : ReadResponse} {halfway : Moment World}
    (valid : call.header.validate = .ok ())
    (read : (setup.service.serve (.read { header := call.header })).runFrom start = (.ok (.ok response), halfway)) :
    (call.verifier.verify setup.service.client call.header call.method call.transport).runFrom start =
      (finish setup.service.client (call.judge response.record)).runFrom halfway := by
  rw [verify_eq, Verifier.opening_eq_ok_iff.2 ⟨valid, rfl⟩]
  simp only [runFrom_bind, runFrom_client_of_serve setup read]
  rfl

end

/-! ### Polls -/

structure PolledSession where
  kind : WorkflowKind
  completion : VoteCompletion
  table : WorkflowTable
  built : WorkflowTable.ofKind kind completion = .ok table
  method : Method
  polls : method.polls = true
  tag : AuthTag
  row : table.HasRow method tag method
  id : SessionId
  lease : LeaseId
  /-- How long the lease was granted for, in milliseconds. -/
  ttl : Nat

/-- A poll, and what is asked of the store between it and the poll before. -/
structure Poll where
  aside : List (Nat × StoreAction) := []
  time : Nat
  serviceNow : Nat := 0
  ttls : StageTtls := .standard
  header : Header
  transport : Transport

structure Round where
  poll : Poll
  before : Moment World
  verdict : Except CutOff (Except VerifyError AcceptedTransition)
  after : Moment World

/-- The moment of the poll, when `last` was the moment after the poll before. -/
def Poll.moment (poll : Poll) (last : Moment World) : Moment World :=
  { last with
    now := poll.time
    state := { last.state with store := last.state.store.through poll.aside, serviceNow := poll.serviceNow } }

def Poll.Ordered (since : Nat) (poll : Poll) : Prop :=
  (since :: (poll.aside.map Prod.fst ++ [poll.time])).Pairwise (· ≤ ·)

def Ordered : (since : Nat) → List Poll → Prop
  | _, [] => True
  | since, poll :: polls => poll.Ordered since ∧ Ordered poll.time polls

instance decidableOrdered : (since : Nat) → (polls : List Poll) → Decidable (Ordered since polls)
  | _, [] => .isTrue trivial
  | since, poll :: polls =>
    have := decidableOrdered poll.time polls
    inferInstanceAs (Decidable ((since :: (poll.aside.map Prod.fst ++ [poll.time])).Pairwise (· ≤ ·) ∧ _))

/-- Polls that come less than `ttl` after the one before, or after the moment `renewed`. -/
def Prompt (ttl : Nat) : (renewed : Nat) → List Poll → Prop
  | _, [] => True
  | renewed, poll :: polls => poll.time < renewed + ttl ∧ Prompt ttl poll.time polls

/-- When the last poll was made, or `renewed` if none was. -/
def lastTime : (renewed : Nat) → List Poll → Nat
  | renewed, [] => renewed
  | _, poll :: polls => lastTime poll.time polls

namespace PolledSession

variable (session : PolledSession) (setup : Setup)

def key : String := Sessions.key session.id

def holding (deadline : Nat) : Holding :=
  ⟨RecordText.encode (some session.method) session.tag, session.lease, session.ttl, deadline⟩

def call (poll : Poll) : Call where
  kind := session.kind
  completion := session.completion
  verifier := { table := session.table, ttls := poll.ttls }
  built := session.built
  header := poll.header
  method := session.method
  transport := poll.transport

def round (poll : Poll) (last : Moment World) : Round :=
  let before := poll.moment last
  let call := session.call poll
  let (verdict, after) :=
    (call.verifier.verify setup.service.client call.header call.method call.transport).runFrom before
  { poll, before, verdict, after }

def rounds : List Poll → Moment World → List Round
  | [], _ => []
  | poll :: polls, last => session.round setup poll last :: rounds polls (session.round setup poll last).after

def after : List Poll → Moment World → Moment World
  | [], last => last
  | poll :: polls, last => after polls (session.round setup poll last).after

structure Sends (poll : Poll) : Prop where
  valid : poll.header.validate = .ok ()
  same : poll.header.sessionId = session.id
  opened : setup.window.contains poll.serviceNow = true

/-- The poll is accepted, and its one effect is that the lease starts anew. -/
structure Renewed (round : Round) : Prop where
  accepted : round.verdict = .ok (.ok ⟨session.method, session.tag, session.lease,
    .updated (round.poll.ttls.ttl session.method.stage), 0x53530001⟩)
  record : round.after.state.store.seen round.poll.time session.key =
    some (session.holding (round.poll.time + session.ttl))
  remaining : (round.after.state.store.timeToLive round.poll.time session.lease).1 = some session.ttl
  unminted : round.after.state.store.lastLease = round.before.state.store.lastLease

structure Refused (round : Round) : Prop where
  rejected : round.verdict = .ok (.error (.rejected (.invalidCallerOrAuth session.method none .unresolved)))
  absent : round.after.state.store.seen round.poll.time session.key = none
  unminted : round.after.state.store.lastLease = round.before.state.store.lastLease

structure Alive (since deadline : Nat) (last : Moment World) : Prop where
  sound : last.state.store.Sound
  faultless : last.state.events = []
  live : last.state.store.seen since session.key = some (session.holding deadline)

structure Gone (since : Nat) (last : Moment World) : Prop where
  sound : last.state.store.Sound
  faultless : last.state.events = []
  absent : last.state.store.seen since session.key = none

variable {session setup} {poll : Poll} {polls : List Poll} {last : Moment World} {since renewed deadline : Nat}

/-! ### One poll -/

theorem read_found (sends : session.Sends setup poll) (sound : last.state.store.Sound)
    (faultless : last.state.events = []) :
    (setup.service.serve (.read { header := poll.header })).runFrom (poll.moment last) =
      (.ok (match Sessions.record session.key
          (((poll.moment last).state.store.seen poll.time session.key).map Holding.stored) with
        | .ok record => .ok { header := poll.header, record }
        | .error source => .error (.repo source)),
        afterAttempt (poll.moment last) ((poll.moment last).state.store.purge poll.time)) := by
  have found := @runFrom_serve_read setup (poll.moment last) poll.header (sound.through poll.aside) faultless
    sends.opened sends.valid
  rw [sends.same] at found
  exact found

theorem round_of_run {outcome : Except VerifyError AcceptedTransition} {stop : Moment World}
    (run : ((session.call poll).verifier.verify setup.service.client poll.header session.method poll.transport).runFrom
      (poll.moment last) = (.ok outcome, stop)) :
    session.round setup poll last = ⟨poll, poll.moment last, .ok outcome, stop⟩ := by
  have same : session.round setup poll last =
      let result := ((session.call poll).verifier.verify setup.service.client poll.header session.method
        poll.transport).runFrom (poll.moment last)
      ⟨poll, poll.moment last, result.1, result.2⟩ := rfl
  rw [same, run]

theorem Alive.shown (alive : session.Alive since deadline last) (ordered : poll.Ordered since)
    (spares : ∀ action ∈ poll.aside, action.2.Spares session.key session.lease) :
    (poll.moment last).state.store.seen poll.time session.key =
      if poll.time < deadline then some (session.holding deadline) else none := by
  have on (holding : Holding) (shown : last.state.store.seen since session.key = some holding) :
      holding.lease = session.lease := by
    cases alive.live.symm.trans shown
    rfl
  have order : since ≤ poll.time := (List.pairwise_cons.1 ordered).1 poll.time (by simp)
  have untouched := LeaseStore.Sound.seen_through ordered alive.sound spares on
  refine untouched.trans ?_
  rw [alive.sound.seen_later order, alive.live, Option.filter_some]
  exact if_congr decide_eq_true_iff rfl rfl

theorem resolved (session : PolledSession) : session.tag.isResolved = true :=
  WorkflowTable.resolved_of_evaluate session.built
    (WorkflowTable.evaluate_poll session.built session.polls session.row session.lease .tls)

theorem judge_live (sends : session.Sends setup poll) (counted : 0 ≤ session.lease.number) :
    (session.call poll).judge ⟨some session.method, session.tag, session.lease⟩ =
      .ok ((session.call poll).updating session.tag session.lease) := by
  rw [Call.judge_of_evaluate
    (WorkflowTable.evaluate_poll session.built session.polls session.row session.lease poll.transport)]
  exact Call.plan_update.2 ⟨⟨sends.valid, counted, session.resolved⟩, rfl⟩

theorem Alive.poll_in_time (alive : session.Alive since deadline last) (sends : session.Sends setup poll)
    (ordered : poll.Ordered since) (spares : ∀ action ∈ poll.aside, action.2.Spares session.key session.lease)
    (inTime : poll.time < deadline) : session.Renewed (session.round setup poll last) ∧
      session.Alive poll.time (poll.time + session.ttl) (session.round setup poll last).after := by
  have sound := alive.sound.through poll.aside
  have live := (alive.shown ordered spares).trans (if_pos inTime)
  have counted : 0 ≤ session.lease.number := Int.le_trans (by decide) (sound.seen_numbered live).1
  have read := read_found sends alive.sound alive.faultless
  have decoded : Sessions.record session.key (some (session.holding deadline).stored) =
      .ok ⟨some session.method, session.tag, session.lease⟩ := by
    simp only [Sessions.record, holding, Holding.stored, RecordText.decode_encode]
  rw [live, Option.map_some, decoded] at read
  have run := runFrom_verify_of_read setup (show (session.call poll).header.validate = .ok () from sends.valid) read
  rw [judge_live sends counted] at run
  let request := (session.call poll).request session.tag session.lease
  let halfway := afterAttempt (poll.moment last) ((poll.moment last).state.store.purge poll.time)
  have still : halfway.state.store.seen poll.time (Sessions.key request.header.sessionId) =
      some (session.holding deadline) := by
    refine (sound.seen_now_purge poll.time _).trans ?_
    exact sends.same ▸ live
  have sendable : request.validate = .ok () := Call.request_valid sends.valid session.resolved counted
  obtain ⟨store, served, kept, unminted, seen⟩ := @runFrom_serve_renewal setup halfway request _ (sound.purge poll.time)
    alive.faultless sends.opened sendable still rfl
  have written := runFrom_client_of_serve setup served
  have verified : ((session.call poll).verifier.verify setup.service.client poll.header session.method
      poll.transport).runFrom (poll.moment last) = (.ok (.ok ⟨session.method, session.tag, session.lease,
        .updated (poll.ttls.ttl session.method.stage), 0x53530001⟩), afterAttempt halfway store) := by
    refine run.trans ?_
    change (setup.service.client.call (.update request) >>= fun ack =>
      pure (((session.call poll).updating session.tag session.lease).conclude ack)).runFrom halfway = _
    rw [runFrom_bind, written]
    rfl
  rw [round_of_run verified]
  have shown : store.seen poll.time session.key = some (session.holding (poll.time + session.ttl)) :=
    (congrArg (fun id => store.seen poll.time (Sessions.key id)) sends.same).symm.trans seen
  exact ⟨⟨rfl, shown, (LeaseStore.timeToLive_of_seen shown).trans (congrArg some (Nat.add_sub_cancel_left ..)), unminted⟩,
    ⟨kept, alive.faultless, shown⟩⟩

theorem refused_of_absent (sends : session.Sends setup poll) (sound : last.state.store.Sound)
    (faultless : last.state.events = [])
    (absent : (poll.moment last).state.store.seen poll.time session.key = none) :
    session.Refused (session.round setup poll last) ∧ session.Gone poll.time (session.round setup poll last).after := by
  have read := read_found sends sound faultless
  rw [absent] at read
  have refused : (session.call poll).judge .empty =
      .error (.rejected (.invalidCallerOrAuth session.method none .unresolved)) := by
    have rejected := WorkflowTable.evaluate_poll_empty session.built session.polls session.row poll.transport
    simp only [Call.judge, Verifier.judge, call, rejected]
  have run := runFrom_verify_of_read setup (show (session.call poll).header.validate = .ok () from sends.valid) read
  rw [refused] at run
  rw [round_of_run run]
  have gone := ((sound.through poll.aside).seen_now_purge poll.time session.key).trans absent
  exact ⟨⟨rfl, gone, rfl⟩, ⟨(sound.through poll.aside).purge poll.time, faultless, gone⟩⟩

theorem Alive.poll_too_late (alive : session.Alive since deadline last) (sends : session.Sends setup poll)
    (ordered : poll.Ordered since) (spares : ∀ action ∈ poll.aside, action.2.Spares session.key session.lease)
    (late : deadline ≤ poll.time) : session.Refused (session.round setup poll last) ∧
      session.Gone poll.time (session.round setup poll last).after :=
  refused_of_absent sends alive.sound alive.faultless
    ((alive.shown ordered spares).trans (if_neg (Nat.not_lt.2 late)))

theorem Gone.poll_refused (gone : session.Gone since last) (sends : session.Sends setup poll) (ordered : poll.Ordered since)
    (leaves : ∀ action ∈ poll.aside, action.2.Leaves session.key) : session.Refused (session.round setup poll last) ∧
      session.Gone poll.time (session.round setup poll last).after :=
  refused_of_absent sends gone.sound gone.faultless
    (LeaseStore.Sound.absent_through ordered gone.sound leaves gone.absent)

/-! ### Any number of polls -/

theorem Alive.rounds (alive : session.Alive since (renewed + session.ttl) last)
    (sends : ∀ poll ∈ polls, session.Sends setup poll) (ordered : Ordered since polls)
    (spares : ∀ poll ∈ polls, ∀ action ∈ poll.aside, action.2.Spares session.key session.lease)
    (prompt : Prompt session.ttl renewed polls) :
    (∀ round ∈ session.rounds setup polls last, session.Renewed round) ∧
      session.Alive (lastTime since polls) (lastTime renewed polls + session.ttl) (session.after setup polls last) := by
  induction polls generalizing since renewed last with
  | nil => exact ⟨by simp [PolledSession.rounds], alive⟩
  | cons poll polls ih =>
    obtain ⟨first, alive⟩ := alive.poll_in_time (sends poll List.mem_cons_self) ordered.1
      (spares poll List.mem_cons_self) prompt.1
    obtain ⟨others, alive⟩ := ih alive (fun poll member => sends poll (List.mem_cons_of_mem _ member)) ordered.2
      (fun poll member => spares poll (List.mem_cons_of_mem _ member)) prompt.2
    exact ⟨List.forall_mem_cons.2 ⟨first, others⟩, alive⟩

theorem Gone.rounds (gone : session.Gone since last) (sends : ∀ poll ∈ polls, session.Sends setup poll)
    (ordered : Ordered since polls) (leaves : ∀ poll ∈ polls, ∀ action ∈ poll.aside, action.2.Leaves session.key) :
    ∀ round ∈ session.rounds setup polls last, session.Refused round := by
  induction polls generalizing since last with
  | nil => simp [PolledSession.rounds]
  | cons poll polls ih =>
    obtain ⟨first, gone⟩ := gone.poll_refused (sends poll List.mem_cons_self) ordered.1 (leaves poll List.mem_cons_self)
    exact List.forall_mem_cons.2 ⟨first, ih gone (fun poll member => sends poll (List.mem_cons_of_mem _ member))
      ordered.2 fun poll member => leaves poll (List.mem_cons_of_mem _ member)⟩

end PolledSession

/-- A session whose lease was last renewed at `renewed`, in a store that was reached at `since`. Polls that come before
the lease has run out are all accepted: they leave the record as it is, mint no lease, and start the lease anew each
time. The first poll that comes too late, and all that follow it while nobody starts the session, are rejected. -/
theorem polls_keep_the_session (setup : Setup) (session : PolledSession) {since renewed : Nat} {start : Moment World}
    (reached : LeaseStore.Reached since start.state.store) (faultless : start.state.events = [])
    (live : start.state.store.seen since session.key = some (session.holding (renewed + session.ttl)))
    {prompt : List Poll} (sends : ∀ poll ∈ prompt, session.Sends setup poll) (ordered : Ordered since prompt)
    (spares : ∀ poll ∈ prompt, ∀ action ∈ poll.aside, action.2.Spares session.key session.lease)
    (inTime : Prompt session.ttl renewed prompt) :
    (∀ round ∈ session.rounds setup prompt start, session.Renewed round) ∧
    ∀ (late : Poll) (further : List Poll), (∀ poll ∈ late :: further, session.Sends setup poll) →
      Ordered (lastTime since prompt) (late :: further) →
      (∀ action ∈ late.aside, action.2.Spares session.key session.lease) →
      lastTime renewed prompt + session.ttl ≤ late.time →
      (∀ poll ∈ further, ∀ action ∈ poll.aside, action.2.Leaves session.key) →
      ∀ round ∈ session.rounds setup (late :: further) (session.after setup prompt start), session.Refused round := by
  have alive : session.Alive since (renewed + session.ttl) start := ⟨reached.upheld.toSound, faultless, live⟩
  obtain ⟨accepted, alive⟩ := alive.rounds sends ordered spares inTime
  refine ⟨accepted, fun late further sends ordered spares overdue leaves => ?_⟩
  obtain ⟨first, gone⟩ := alive.poll_too_late (sends late List.mem_cons_self) ordered.1 spares overdue
  have rest := gone.rounds (fun poll member => sends poll (List.mem_cons_of_mem _ member)) ordered.2 leaves
  exact List.forall_mem_cons.2 ⟨first, rest⟩

/-! ### A voter who takes too long -/

theorem phone_built : WorkflowTable.ofKind (.mobileIdFlow .mobileId) .delete = .ok (.mobileFlow .mobileId) := rfl

def waitingVoter : PolledSession where
  kind := .mobileIdFlow .mobileId
  completion := .delete
  table := .mobileFlow .mobileId
  built := phone_built
  method := .authenticateStatus
  polls := rfl
  tag := .mobileId
  row := by
    unfold WorkflowTable.HasRow
    decide
  id := ⟨"P1", by decide, by decide, by decide⟩
  lease := ⟨1⟩
  ttl := 300000

def asked : Moment World where
  state := { store := (LeaseStore.empty.perform 100 (.put waitingVoter.key
    (RecordText.encode (some .authenticateStatus) .mobileId) .none StageTtls.standard.auth)).2 }

def voterPoll (time : Nat) (aside : List (Nat × StoreAction)) : Poll where
  aside := aside
  time := time
  header := { sessionId := waitingVoter.id }
  transport := .ticket

/-- Two polls that come just in time, while another session comes and goes. -/
def patience : List Poll :=
  [voterPoll 300099 [(200, .put "/session/P2" [] .none StageTtls.standard.auth), (70000, .expire)], voterPoll 600098 []]

theorem late_poll_finds_no_session : LeaseStore.Reached 100 asked.state.store ∧
    (∀ round ∈ waitingVoter.rounds guarded patience asked, waitingVoter.Renewed round) ∧
    ∀ round ∈ waitingVoter.rounds guarded [voterPoll 900098 [], voterPoll 900099 [(900099, .delete waitingVoter.key)]]
      (waitingVoter.after guarded patience asked), waitingVoter.Refused round := by
  have reached : LeaseStore.Reached 100 asked.state.store := .act .start (Nat.zero_le 100) _
  have live : asked.state.store.seen 100 waitingVoter.key = some (waitingVoter.holding (100 + 300000)) := by
    decide +kernel
  have sends (time : Nat) (aside : List (Nat × StoreAction)) : waitingVoter.Sends guarded (voterPoll time aside) :=
    ⟨rfl, rfl, rfl⟩
  obtain ⟨renewed, refused⟩ := polls_keep_the_session guarded waitingVoter reached rfl live (by simp [patience, sends])
    (show Ordered 100 patience by decide) (by decide) ⟨by decide, by decide, trivial⟩
  exact ⟨reached, renewed, refused _ _ (by simp [sends]) (by decide) (by decide) (by decide) (by decide)⟩

end Scenario

end VoterSession
