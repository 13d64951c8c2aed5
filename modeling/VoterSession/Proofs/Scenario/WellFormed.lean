import VoterSession.Proofs.Scenario.Interleaving
import VoterSession.Proofs.Store.Representation
set_option autoImplicit false

/-!
An accepted step always has a request to send. Whatever is stored under the key of the session and whatever
happens meanwhile, the service and the two constructors blame a request only for its header, and then nothing
is asked of the store. Main statement: `only_headers_are_blamed`.
-/
namespace VoterSession

theorem Verifier.exists_plan {verifier : Verifier} {header : Header} {step : Transition}
    (valid : header.validate = .ok ()) (resolved : step.auth.isResolved = true) (counted : 0 ≤ step.lease.number) :
    ∃ plan, verifier.plan header step = .ok plan ∧ plan.write.call.validate = .ok () := by
  unfold Verifier.plan
  cases step.advance with
  | update stage =>
    have fields : UpdateRequest.ofFields header step.method step.auth step.lease (verifier.ttls.ttl stage) = .ok _ :=
      UpdateRequest.ofFields_eq_ok_iff.2 ⟨⟨valid, counted, resolved⟩, rfl⟩
    simp only [fields]
    exact ⟨_, rfl, (UpdateRequest.validate_eq_ok_iff rfl).2 ⟨valid, counted, resolved⟩⟩
  | delete =>
    have fields : DeleteRequest.ofHeader header = .ok _ := DeleteRequest.ofHeader_eq_ok_iff.2 ⟨valid, rfl⟩
    simp only [fields]
    exact ⟨_, rfl, DeleteRequest.validate_of_header valid⟩

/-- The front end is told that a request of its own breaks the contract. -/
def VerifyError.Blames (text : String) : VerifyError → Prop
  | .status (.invalidRequest reason) => reason = text
  | .notAcknowledged _ (some (.invalidRequest reason)) => reason = text
  | _ => False

theorem ClientError.ofService_blameless {failure : ServiceError}
    (blameless : ∀ violation, failure ≠ .invalidRequest violation) (text : String) :
    ofService failure ≠ .invalidRequest text := by
  cases failure with
  | invalidRequest violation => exact absurd rfl (blameless violation)
  | outsideWindow now => nofun
  | repo source =>
    cases source with
    | corrupt key reason => nofun
    | store key source => cases source <;> nofun

namespace Scenario

open Timed Wire

/-! ### Answers that blame no request -/

def Blameless {α : Type} (answer : Except ClientError α) : Prop := ∀ text, answer ≠ .error (.invalidRequest text)

theorem blameless_client {α : Type} {answer : Except ServiceError α}
    (blameless : ∀ violation, answer ≠ .error (.invalidRequest violation)) :
    Blameless (answer.mapError ClientError.ofService) := by
  intro text h
  cases answer with
  | ok answer => cases h
  | error failure =>
    refine ClientError.ofService_blameless (fun violation same => ?_) text (Except.error.inj h)
    exact blameless violation (congrArg Except.error same)

section

variable {service : StatusService (Timed World)} (orderly : Orderly service.store)
  (ticking : service.clock = World.clock)

include orderly ticking

theorem triple_client_read {header : Header} (valid : header.validate = .ok ()) (floor : Int) :
    Triple (Numbered floor) (service.client.call (.read { header }))
      (fun answer world => Numbered floor world ∧ Blameless answer ∧
        ∀ response, answer = .ok response → 0 ≤ response.record.lease.number)
      (Numbered floor) := by
  have built : (StatusCall.read { header }).Built := ReadRequest.ofHeader_eq_ok_iff.2 ⟨valid, rfl⟩
  refine (triple_serve orderly ticking (.read { header }) floor).bind fun answer => Triple.pure fun world kept => ?_
  have answers := kept.2 built
  refine ⟨kept.1, blameless_client ?_, ?_⟩
  · rintro violation rfl
    exact answers violation rfl
  · intro response h
    cases answer with
    | error failure => cases h
    | ok answer =>
      cases h
      obtain ⟨record, rfl, counted, _⟩ := answers
      exact counted

theorem triple_client_write {write : SessionWrite} (valid : write.call.validate = .ok ()) (floor : Int) :
    Triple (Numbered floor) (service.client.call write.call) (fun answer _ => Blameless answer) (Numbered floor) := by
  have clock : Steady service.clock := ticking ▸ steady_clock
  have served : Triple (Numbered floor) (service.serve write.call)
      (fun answer _ => ∀ violation, answer ≠ .error (.invalidRequest violation)) (Numbered floor) := by
    refine (clock floor).bind fun now => ?_
    split
    · rw [valid]
      cases write with
      | update request =>
        refine (steady_update orderly _ _ _ _ _ floor).bind fun answer => ?_
        cases answer <;> exact Triple.pure fun _ _ => nofun
      | delete request =>
        refine (steady_delete orderly _ floor).bind fun answer => ?_
        cases answer <;> exact Triple.pure fun _ _ => nofun
    · exact Triple.pure fun _ _ => nofun
  exact served.bind fun answer => Triple.pure fun _ => blameless_client

end

/-! ### One verification -/

section

variable {call : Call}

theorem plan_of_evaluate {record : SessionRecord} {step : Transition} (valid : call.header.validate = .ok ())
    (counted : 0 ≤ record.lease.number)
    (accepted : call.verifier.table.evaluate call.method record call.transport = .ok step) :
    step.auth.isResolved = true ∧ 0 ≤ step.lease.number ∧
      ∃ plan, call.verifier.plan call.header step = .ok plan ∧ plan.write.call.validate = .ok () := by
  have resolved := WorkflowTable.resolved_of_evaluate call.built accepted
  have kept : 0 ≤ step.lease.number := by
    obtain none | same := WorkflowTable.lease_of_evaluate accepted
    · rw [none]
      decide
    · rw [same]
      exact counted
  exact ⟨resolved, kept, Verifier.exists_plan valid resolved kept⟩

theorem triple_finish {service : StatusService (Timed World)} (orderly : Orderly service.store)
    (ticking : service.clock = World.clock) (valid : call.header.validate = .ok ())
    {answer : Except ClientError ReadResponse} (blameless : Blameless answer)
    (counted : ∀ response, answer = .ok response → 0 ≤ response.record.lease.number) (floor : Int) :
    Triple (Numbered floor)
      (finish service.client (call.verifier.decision call.header call.method call.transport answer))
      (fun outcome _ => ∀ failure text, outcome = .error failure → ¬failure.Blames text) (Numbered floor) := by
  cases answer with
  | error source =>
    refine Triple.pure fun _ _ failure text h => ?_
    cases h
    intro blames
    cases source with
    | invalidRequest reason => exact blameless reason rfl
    | _ => exact blames
  | ok response =>
    rw [Verifier.decision, Verifier.judge]
    cases evaluated : call.verifier.table.evaluate call.method response.record call.transport with
    | error rejection =>
      refine Triple.pure fun _ _ failure text h => ?_
      cases h
      exact id
    | ok step =>
      obtain ⟨_, _, plan, planned, sendable⟩ := plan_of_evaluate valid (counted response rfl) evaluated
      simp only [planned]
      refine (triple_client_write orderly ticking sendable floor).bind fun ack => Triple.pure fun _ told => ?_
      intro failure text h blames
      cases ack with
      | ok ack =>
        rw [Plan.conclude] at h
        split at h <;> cases h
        exact blames
      | error source =>
        cases h
        cases source with
        | invalidRequest reason => exact told reason rfl
        | _ => exact blames

end

/-- Over any store that was reached and any schedule of faults and of other steps in between, a verification is told
that a request breaks the contract only if its header does, and then it has asked nothing of the store. A step that
the table accepts is resolved, names a lease that may be named, and has a write that passes every check. -/
theorem only_headers_are_blamed (setup : Setup) (depth : Nat) (call : Call) {since : Nat} {start : Moment World}
    (reached : LeaseStore.Reached since start.state.store) :
    let client := (setup.stack (setup.interleave depth)).service.client
    let verification := (call.verifier.verify client call.header call.method call.transport).runFrom start
    (∀ violation, call.header.validate = .error violation →
      verification = (.ok (.error (.status (.invalidRequest violation.message))), start)) ∧
    (∀ failure text, verification.1 = .ok (.error failure) → failure.Blames text →
      ∃ violation, call.header.validate = .error violation ∧ text = violation.message) ∧
    (call.header.validate = .ok () → ∀ response stop,
      (client.call (.read { header := call.header })).runFrom start = (.ok (.ok response), stop) →
      ∀ step, call.verifier.table.evaluate call.method response.record call.transport = .ok step →
        step.auth.isResolved = true ∧ 0 ≤ step.lease.number ∧
          ∃ plan, call.verifier.plan call.header step = .ok plan ∧ plan.write.call.validate = .ok ()) := by
  intro client verification
  have sound := reached.upheld.toSound
  have orderly := setup.orderly_interleaved depth
  have untouched (violation : Violation) (invalid : call.header.validate = .error violation) :
      verification = (.ok (.error (.status (.invalidRequest violation.message))), start) := by
    simp only [verification, verify_eq, Verifier.opening_of_invalid invalid]
    rfl
  refine ⟨untouched, ?_, ?_⟩
  · intro failure text run blames
    cases valid : call.header.validate with
    | error violation =>
      rw [untouched violation valid] at run
      cases run
      exact ⟨violation, rfl, blames.symm⟩
    | ok _ =>
      have blameless : Triple (Numbered start.state.store.lastLease)
          (call.verifier.verify client call.header call.method call.transport)
          (fun outcome _ => ∀ failure text, outcome = .error failure → ¬failure.Blames text)
          (Numbered start.state.store.lastLease) := by
        rw [verify_eq, Verifier.opening_eq_ok_iff.2 ⟨valid, rfl⟩]
        refine (triple_client_read orderly rfl valid _).bind fun answer => ?_
        refine Triple.given (fun _ kept => kept.2) fun told => ?_
        exact (triple_finish orderly rfl valid told.1 told.2 _).mono (fun _ kept => kept.1) (fun _ _ h => h) fun _ h => h
      have told := blameless.answered ⟨sound, Int.le_refl _⟩ (Prod.ext run rfl)
      exact absurd blames (told failure text rfl)
  · intro valid response stop run step accepted
    have kept := (triple_client_read orderly rfl valid start.state.store.lastLease).answered ⟨sound, Int.le_refl _⟩ run
    exact plan_of_evaluate valid (kept.2.2 response rfl) accepted

def emptying : StoreAction := .put "/session/G5" (RecordText.encode none .unresolved) .none StageTtls.standard.choice

def emptied : Moment World where
  now := 20
  state := { store := (LeaseStore.empty.perform 10 emptying).2
             events := [.fault .plain, .interleave (.delete "/session/G5" true)] }

theorem webEid_built : WorkflowTable.ofKind .webEid .delete = .ok .webEid := rfl

def challenge (os : String) : Call where
  kind := .webEid
  completion := .delete
  verifier := { table := .webEid, ttls := .standard }
  built := webEid_built
  header := { sessionId := ⟨"G5", by decide, by decide, by decide⟩, os }
  method := .challenge
  transport := .tls

theorem emptied_session_is_asked_for : LeaseStore.Reached 10 emptied.state.store ∧
    (∃ plan, (challenge "").verifier.plan (challenge "").header ⟨.challenge, .webEid, ⟨1⟩, .update .auth⟩ = .ok plan ∧
      plan.write.call.validate = .ok ()) ∧
    ((challenge "\n").verifier.verify (guarded.stack (guarded.interleave 1)).service.client (challenge "\n").header
      .challenge .tls).runFrom emptied =
        (.ok (.error (.status (.invalidRequest "header.os: must not contain control characters"))), emptied) := by
  have reached : LeaseStore.Reached 10 emptied.state.store := .act .start (Nat.zero_le 10) emptying
  refine ⟨reached, ?_, ?_⟩
  · have read : (((guarded.stack (guarded.interleave 1)).service.client.call
        (.read { header := (challenge "").header })).runFrom emptied).1 =
          .ok (.ok { header := (challenge "").header, record := ⟨none, .unresolved, ⟨1⟩⟩ }) := by decide +kernel
    obtain ⟨_, _, sendable⟩ := only_headers_are_blamed guarded 1 (challenge "") reached
    exact (sendable rfl _ _ (Prod.ext read rfl) _ rfl).2.2
  · obtain ⟨untouched, _⟩ := only_headers_are_blamed guarded 1 (challenge "\n") reached
    exact untouched (.invalidValue "header.os" "must not contain control characters") rfl

end Scenario

end VoterSession
