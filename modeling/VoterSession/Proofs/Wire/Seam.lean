import VoterSession.Proofs.Service.Call
import VoterSession.Proofs.Wire.Crossing
set_option autoImplicit false

/-!
The two ways to the session status, in the same process and over a channel that delivers what it is given,
cannot be told apart: not by a call, and not by any number of verifications. Main statement: `seams_agree`.
-/
namespace VoterSession

def SessionWrite.call : SessionWrite → StatusCall Ack
  | .update request => .update request
  | .delete request => .delete request

theorem SessionWrite.send_eq {m : Type → Type} (client : StatusClient m) (write : SessionWrite) :
    write.send client = client.call write.call := by
  cases write <;> rfl

theorem WorkflowTable.lease_of_evaluate {table : WorkflowTable} {method : Method} {record : SessionRecord}
    {transport : Transport} {step : Transition} (h : table.evaluate method record transport = .ok step) :
    step.lease = .none ∨ step.lease = record.lease := by
  obtain ⟨rule, _, _, row, _, _, _, rfl⟩ := evaluate_eq_ok h
  unfold transition
  cases rule.action with
  | update stage fresh =>
    cases fresh with
    | true => exact .inl rfl
    | false => exact .inr rfl
  | delete => exact .inr rfl

theorem Verifier.built_of_judge {verifier : Verifier} {header : Header} {method : Method}
    {transport : Transport} {record : SessionRecord} {plan : Plan}
    (h : verifier.judge header method transport record = .ok plan)
    (bounded : record.lease.number ≤ Text.Decimal.maxInt64) : plan.write.call.Built := by
  unfold judge at h
  split at h
  · rename_i step hstep
    obtain ⟨stage, request, _, writes, built⟩ | ⟨request, _, writes, built⟩ := plan_cases h <;>
      rw [writes, SessionWrite.call]
    · have same := (UpdateRequest.ofFields_eq_ok_iff.1 built).2
      subst same
      refine ⟨built, ?_⟩
      change step.lease.number ≤ Text.Decimal.maxInt64
      obtain none | kept := WorkflowTable.lease_of_evaluate hstep
      · rw [none]
        decide
      · rw [kept]
        exact bounded
    · have same := (DeleteRequest.ofHeader_eq_ok_iff.1 built).2
      subst same
      exact built
  · cases h

namespace Scenario

open Timed Wire

/-! ### Computations that cannot be told apart -/

/-- From a sound store both computations do the same, if a signed 64-bit word holds every lease granted. -/
def Agree {α : Type} (first second : Timed World α) : Prop :=
  ∀ start : Moment World, start.state.store.Sound →
    (first.runFrom start).2.state.store.lastLease ≤ Text.Decimal.maxInt64 →
      second.runFrom start = first.runFrom start

theorem Agree.refl {α : Type} (computation : Timed World α) : Agree computation computation := fun _ _ _ => rfl

theorem Agree.bind {α β : Type} {first second : Timed World α} {next other : α → Timed World β}
    (agree : Agree first second) (begins : Steady first) (ends : ∀ answer, Steady (next answer))
    (rest : ∀ {start stop : Moment World} {answer : α}, start.state.store.Sound →
      first.runFrom start = (.ok answer, stop) → stop.state.store.lastLease ≤ Text.Decimal.maxInt64 →
        Agree (next answer) (other answer)) :
    Agree (first >>= next) (second >>= other) := by
  intro start sound bounded
  have kept := begins.numbered sound
  rw [runFrom_bind] at bounded ⊢
  rw [runFrom_bind]
  rcases run : first.runFrom start with ⟨why | answer, stop⟩ <;> rw [run] at bounded kept
  · rw [agree start sound (by rw [run]; exact bounded), run]
  · -- what comes after the first half takes back no lease, so the bound holds halfway already
    have halfway : stop.state.store.lastLease ≤ Text.Decimal.maxInt64 :=
      Int.le_trans ((ends answer).numbered kept.sound).granted bounded
    rw [agree start sound (by rw [run]; exact halfway), run]
    exact rest sound run halfway stop kept.sound bounded

/-! ### One call -/

section

variable {service : StatusService (Timed World)}

theorem client_call_eq_map {α : Type} (service : StatusService (Timed World)) (call : StatusCall α) :
    service.client.call call = (·.mapError ClientError.ofService) <$> service.serve call :=
  (map_eq_pure_bind ..).symm

variable (orderly : Orderly service.store) (ticking : service.clock = World.clock)

include orderly ticking

theorem steady_call {α : Type} (call : StatusCall α) : Steady (service.client.call call) := by
  intro floor
  exact (triple_serve orderly ticking call floor).bind fun _ => Triple.pure fun _ kept => kept.1

theorem agree_call {α : Type} {call : StatusCall α} (built : call.Built) :
    Agree (service.client.call call) ((Channel.toService service).client.call call) := by
  intro start sound bounded
  rw [client_call_eq_map, runFrom_map] at bounded ⊢
  rw [Channel.client_toService_call service built, runFrom_map]
  rcases run : (service.serve call).runFrom start with ⟨why | answer, stop⟩
  · rfl
  · rw [run] at bounded
    have kept := (triple_serve orderly ticking call _).answered ⟨sound, Int.le_refl _⟩ run
    simp only [Except.map, (kept.2 built).crossed built bounded]

theorem read_granted {request : ReadRequest} (built : (StatusCall.read request).Built)
    {start stop : Moment World} {response : ReadResponse} (sound : start.state.store.Sound)
    (h : (service.client.call (.read request)).runFrom start = (.ok (.ok response), stop)) :
    response.record.lease.number ≤ stop.state.store.lastLease := by
  rw [client_call_eq_map, runFrom_map] at h
  rcases run : (service.serve (.read request)).runFrom start with ⟨why | why | answer, after⟩ <;>
    rw [run] at h <;> cases h
  have kept := (triple_serve orderly ticking (.read request) _).answered ⟨sound, Int.le_refl _⟩ run
  obtain ⟨record, rfl, _, granted⟩ := kept.2 built
  exact granted

end

/-! ### Verifications -/

def finish (client : StatusClient (Timed World)) :
    Except VerifyError Plan → Timed World (Except VerifyError AcceptedTransition)
  | .error failure => return .error failure
  | .ok plan => return plan.conclude (← client.call plan.write.call)

theorem verify_eq (verifier : Verifier) (client : StatusClient (Timed World)) (header : Header)
    (method : Method) (transport : Transport) :
    verifier.verify client header method transport =
      match Verifier.opening header with
      | .error failure => return .error failure
      | .ok request =>
        client.call (.read request) >>= fun answer =>
          finish client (verifier.decision header method transport answer) := by
  unfold Verifier.verify
  cases Verifier.opening header with
  | error failure => rfl
  | ok request =>
    refine bind_congr fun answer => ?_
    cases verifier.decision header method transport answer with
    | error failure => rfl
    | ok plan => simp only [SessionWrite.send_eq, finish]

section

variable {client : StatusClient (Timed World)}
  (steady : ∀ {α : Type} (call : StatusCall α), Steady (client.call call))

include steady

theorem steady_finish (decision : Except VerifyError Plan) : Steady (finish client decision) := by
  cases decision with
  | error failure => exact Steady.pure _
  | ok plan => exact (steady _).bind fun _ => Steady.pure _

theorem steady_verify (verifier : Verifier) (header : Header) (method : Method) (transport : Transport) :
    Steady (verifier.verify client header method transport) := by
  rw [verify_eq]
  split
  · exact Steady.pure _
  · exact (steady _).bind fun _ => steady_finish steady _

end

/-- A verification that a front end asks for: how long after the one before, at which time on the service's
clock, and of what. -/
structure Errand where
  gap : Nat
  serviceNow : Nat
  verifier : Verifier
  header : Header
  method : Method
  transport : Transport

def Errand.run (errand : Errand) (client : StatusClient (Timed World)) :
    Timed World (Except VerifyError AcceptedTransition) := do
  advance errand.gap
  World.update fun world => { world with serviceNow := errand.serviceNow }
  errand.verifier.verify client errand.header errand.method errand.transport

/-- What comes of each errand, and the moment after the last one. An errand without an answer is given up
when its deadline has passed. -/
def outcomes (client : StatusClient (Timed World)) : List Errand → Moment World →
    List (Except CutOff (Except VerifyError AcceptedTransition)) × Moment World
  | [], start => ([], start)
  | errand :: errands, start =>
    let (outcome, stop) := (errand.run client).runFrom start
    let (rest, last) := outcomes client errands stop
    (outcome :: rest, last)

section

variable {service : StatusService (Timed World)}
variable (orderly : Orderly service.store) (ticking : service.clock = World.clock)

include orderly ticking

theorem agree_verify (verifier : Verifier) (header : Header) (method : Method) (transport : Transport) :
    Agree (verifier.verify service.client header method transport)
      (verifier.verify (Channel.toService service).client header method transport) := by
  rw [verify_eq, verify_eq]
  split
  · exact Agree.refl _
  · rename_i request hopening
    have built : (StatusCall.read request).Built := by
      obtain ⟨valid, rfl⟩ := Verifier.opening_eq_ok_iff.1 hopening
      exact ReadRequest.ofHeader_eq_ok_iff.2 ⟨valid, rfl⟩
    refine (agree_call orderly ticking built).bind (steady_call orderly ticking _)
      (fun _ => steady_finish (steady_call orderly ticking) _) ?_
    intro start stop answer sound run bounded
    cases hdecision : verifier.decision header method transport answer with
    | error failure => exact Agree.refl _
    | ok plan =>
      cases answer with
      | error source => cases hdecision
      | ok response =>
        have lease := Int.le_trans (read_granted orderly ticking built sound run) bounded
        have sent := Verifier.built_of_judge hdecision lease
        exact (agree_call orderly ticking sent).bind (steady_call orderly ticking _) (fun _ => Steady.pure _)
          fun _ _ _ => Agree.refl _

theorem steady_errand (errand : Errand) : Steady (errand.run service.client) := by
  refine (Steady.advance _).bind fun _ => ?_
  refine (steady_setNow _).bind fun _ => ?_
  exact steady_verify (steady_call orderly ticking) _ _ _ _

theorem agree_errand (errand : Errand) :
    Agree (errand.run service.client) (errand.run (Channel.toService service).client) := by
  have verification : Steady (errand.verifier.verify service.client errand.header errand.method
      errand.transport) := steady_verify (steady_call orderly ticking) _ _ _ _
  refine (Agree.refl _).bind (Steady.advance _) (fun _ => (steady_setNow _).bind fun _ => verification) ?_
  intro _ _ _ _ _ _
  refine (Agree.refl _).bind (steady_setNow _) (fun _ => verification) ?_
  intro _ _ _ _ _ _
  exact agree_verify orderly ticking _ _ _ _

theorem outcomes_numbered (errands : List Errand) {start : Moment World} (sound : start.state.store.Sound) :
    Numbered start.state.store.lastLease (outcomes service.client errands start).2.state := by
  induction errands generalizing start with
  | nil => exact ⟨sound, Int.le_refl _⟩
  | cons errand errands ih =>
    have first := (steady_errand orderly ticking errand).numbered sound
    have rest := ih first.sound
    exact ⟨rest.sound, Int.le_trans first.granted rest.granted⟩

theorem outcomes_agree (errands : List Errand) {start : Moment World} (sound : start.state.store.Sound)
    (bounded : (outcomes service.client errands start).2.state.store.lastLease ≤ Text.Decimal.maxInt64) :
    outcomes (Channel.toService service).client errands start = outcomes service.client errands start := by
  induction errands generalizing start with
  | nil => rfl
  | cons errand errands ih =>
    have first := (steady_errand orderly ticking errand).numbered sound
    have rest := outcomes_numbered orderly ticking errands first.sound
    have same := agree_errand orderly ticking errand start sound (Int.le_trans rest.granted bounded)
    simp only [outcomes, same, ih first.sound bounded]

end

/-! ### The stacks of a setup -/

/-- The service of a setup. What happens to its attempts at the store is scheduled in the state. -/
def Setup.service (setup : Setup) : StatusService (Timed World) := (setup.stack fun _ => pure ()).service

theorem Setup.orderly_stack (setup : Setup) {interleave : Step → Timed World Unit}
    (steady : ∀ step, Steady (interleave step)) : Orderly (setup.stack interleave).store := by
  have eventful : Orderly (World.eventful interleave) := orderly_eventful steady
  simp only [stack]
  cases setup.policy with
  | none => exact eventful
  | some policy => exact eventful.guard policy

theorem Setup.orderly (setup : Setup) : Orderly setup.service.store :=
  setup.orderly_stack fun _ => Steady.pure ()

/-- Whatever the policy, the window, the faults, the times and the sound store to start from, a call whose
request its constructor builds, and any verifications one after another, have the same answers over a
channel as in the same process, and leave the same store, time and number of attempts behind. Leases are
signed 64-bit words, so as many of them are granted as there are such numbers. -/
theorem seams_agree (setup : Setup) (start : Moment World) (sound : start.state.store.Sound) :
    (∀ {α : Type} (call : StatusCall α), call.Built →
      ((setup.service.client.call call).runFrom start).2.state.store.lastLease ≤ Text.Decimal.maxInt64 →
      ((Channel.toService setup.service).client.call call).runFrom start =
        (setup.service.client.call call).runFrom start) ∧
    ∀ errands : List Errand,
      (outcomes setup.service.client errands start).2.state.store.lastLease ≤ Text.Decimal.maxInt64 →
      outcomes (Channel.toService setup.service).client errands start =
        outcomes setup.service.client errands start := by
  refine ⟨?_, ?_⟩
  · intro α call built
    exact agree_call setup.orderly rfl built start sound
  · intro errands
    exact outcomes_agree setup.orderly rfl errands sound

/-! ### A session by identity card, under faults -/

def guarded : Setup where
  policy := some .standard
  window := { notAfter := some 100 }

def troubled : Moment World where
  state := { events := [.fault .plain, .fault (.loseAnswer "reset"), .fault .plain, .fault .hang,
    .fault .hang, .fault .hang, .fault .hang] }

def cardHeader (os : String) : Header := { sessionId := ⟨"D4", by decide, by decide, by decide⟩, os }

def cardErrand (gap serviceNow : Nat) (table : WorkflowTable) (os : String) (method : Method) : Errand :=
  { gap, serviceNow, verifier := { table, ttls := .standard }, header := cardHeader os, method
    transport := .tls }

/-- The choices, then four attempts at the vote: with a header that breaks its contract, while the store
hangs, when the service is closed, and at last. -/
def cardErrands : List Errand :=
  [cardErrand 0 10 .choiceSelection "" .voterChoices,
    cardErrand 1000 20 (.voteCasting .delete) "\n" .vote, cardErrand 1000 30 (.voteCasting .delete) "" .vote,
    cardErrand 1000 100 (.voteCasting .delete) "" .vote, cardErrand 1000 50 (.voteCasting .delete) "" .vote]

theorem troubled_session_crosses : troubled.state.store.Sound ∧
    ((Channel.toService guarded.service).client.call (.read { header := cardHeader "" })).runFrom troubled =
      (guarded.service.client.call (.read { header := cardHeader "" })).runFrom troubled ∧
    (outcomes (Channel.toService guarded.service).client cardErrands troubled).1 =
      [.ok (.ok ⟨.voterChoices, .idCard, .none, .updated (StageTtls.standard.ttl .choice), 0x53530001⟩),
        .ok (.error (.status (.invalidRequest "header.os: must not contain control characters"))),
        .ok (.error (.status (.timeout
          "session store failure at /session/D4: lease store operation timed out after 5000ms"))),
        .ok (.error (.status (.unavailable "session status service is outside its service window at 100"))),
        .ok (.ok ⟨.vote, .idCard, ⟨2⟩, .deleted, 0x53530002⟩)] := by
  have sound : troubled.state.store.Sound := LeaseStore.sound_empty
  obtain ⟨calls, sessions⟩ := seams_agree guarded troubled sound
  refine ⟨sound, calls _ ?_ ?_, ?_⟩
  · exact ReadRequest.ofHeader_eq_ok_iff.2 ⟨by decide +kernel, rfl⟩
  · decide +kernel
  · rw [sessions cardErrands (by decide +kernel)]
    decide +kernel

end Scenario

end VoterSession
