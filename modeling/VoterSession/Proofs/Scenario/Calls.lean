import VoterSession.Proofs.Scenario.Timely
import VoterSession.Proofs.Service.Call
import VoterSession.Proofs.Service.Moment
set_option autoImplicit false

/-!
Rules for the service over any store. An operation of the store comes to repeated attempts at it, a call of the
service to one operation, and a verification to a read and, if the read is answered and the step accepted, one
write. Main statement: `timely_verify`.
-/
namespace VoterSession

def ReadRequest.respond (request : ReadRequest) : Except RepoError SessionRecord → Except ClientError ReadResponse
  | .ok record => .ok { header := request.header, record }
  | .error source => .error (.ofService (.repo source))

def ReadRequest.answer (request : ReadRequest) :
    Except StoreError (Option StoredValue) → Except ClientError ReadResponse
  | .ok stored => request.respond (Sessions.record (Sessions.key request.header.sessionId) stored)
  | .error failure => request.respond (.error (.store (Sessions.key request.header.sessionId) failure))

def Ack.respond : Except RepoError Unit → Except ClientError Ack
  | .ok () => .ok .done
  | .error source => .error (.ofService (.repo source))

def Ack.answer (id : SessionId) (outcome : Except StoreError Unit) : Except ClientError Ack :=
  Ack.respond (outcome.mapError (RepoError.store (Sessions.key id)))

namespace Scenario

open Timed StatusService

variable {σ α : Type} {before cut : Nat → σ → Prop}

/-! ### Repeated attempts -/

/-- Whether an attempt with this outcome may be repeated. -/
def Passing {α : Type} (outcome : Except StoreError α) : Prop :=
  ∃ failure, outcome = .error failure ∧ failure.isTransient = true

@[simp] theorem not_passing_ok {α : Type} (answer : α) : ¬ Passing (.ok answer) := by
  rintro ⟨failure, failed, _⟩
  cases failed

@[simp] theorem passing_error {α : Type} (failure : StoreError) :
    Passing (.error failure : Except StoreError α) ↔ failure.isTransient = true := by
  constructor
  · rintro ⟨same, ⟨⟩, passes⟩
    exact passes
  · intro passes
    exact ⟨failure, rfl, passes⟩

def Follows {α : Type} (before : Nat → σ → Prop) (after : α → Nat → σ → Prop) :
    Except StoreError α → Nat → σ → Prop
  | .ok result => after result
  | .error _ => before

section

variable {policy : RetryPolicy} {attempt : Timed σ (Except StoreError α)}
variable {after : Except StoreError α → Nat → σ → Prop}

theorem timely_once (inner : ∀ time, Timely (some (time + policy.opTimeout))
      (fun now state => now = time ∧ before now state) attempt after (after (.error (.timeout policy.opTimeout)))) :
    Timely none before (policy.once Timed.timing attempt) after cut := by
  have bounded : Timely none before (Timed.within policy.opTimeout attempt)
      (fun answer => after (answer.getD (.error (.timeout policy.opTimeout)))) cut :=
    Timely.within policy.opTimeout inner
  refine bounded.bind fun answer => ?_
  cases answer <;> exact Timely.pure fun _ _ h => h

theorem timely_attempts_succ {left : Nat} {middle : Except StoreError α → Nat → σ → Prop}
    (once : Timely none before (policy.once Timed.timing attempt) middle cut)
    (done : ∀ outcome now state, ¬ Passing outcome → middle outcome now state → after outcome now state)
    (again : ∀ failure, failure.isTransient = true → Timely none
      (fun now state => ∃ earlier, now = earlier + policy.backoff ∧ middle (.error failure) earlier state)
      (policy.attempts Timed.timing attempt left) after cut) :
    Timely none before (policy.attempts Timed.timing attempt (left + 1)) after cut := by
  refine once.bind fun outcome => ?_
  cases outcome with
  | ok answer => exact Timely.pure fun now state => done _ now state (not_passing_ok answer)
  | error failure =>
    dsimp only
    split
    · rename_i transient
      have paused : Timely none (middle (.error failure)) (Timed.wait policy.backoff)
          (fun _ now state => ∃ earlier, now = earlier + policy.backoff ∧ middle (.error failure) earlier state)
          cut :=
        Timely.wait policy.backoff (fun now _ h _ => ⟨now, rfl, h⟩) fun _ _ _ _ limited => nomatch limited
      exact paused.bind fun _ => again failure transient
    · rename_i permanent
      exact Timely.pure fun now state => done _ now state (by simpa using permanent)

/-- What one attempt does under a deadline of its own, any number of them does, if a failed one leaves what the
next one starts from. -/
theorem timely_attempts
    (one : ∀ due, Timely (some due) before attempt after (after (.error (.timeout policy.opTimeout))))
    (resumes : ∀ failure now later state, after (.error failure) now state → now ≤ later → before later state)
    (left : Nat) : Timely none before (policy.attempts Timed.timing attempt left) after cut := by
  have once : Timely none before (policy.once Timed.timing attempt) after cut := timely_once fun time =>
    (one (time + policy.opTimeout)).mono (fun _ _ h => h.2) (fun _ _ _ h => h) fun _ _ h => h
  induction left with
  | zero => exact once
  | succ left ih =>
    refine timely_attempts_succ once (fun _ _ _ _ h => h) fun failure _ => ?_
    refine ih.mono ?_ (fun _ _ _ h => h) fun _ _ h => h
    rintro now state ⟨earlier, rfl, h⟩
    exact resumes failure earlier _ state h (Nat.le_add_right _ _)

end

/-! ### Calls to the service -/

def glance (reading : Nat → σ → Nat) : Timed σ Nat := Timed.change fun now state => (reading now state, state)

section

variable {service : StatusService (Timed σ)} {reading : Nat → σ → Nat}
variable (ticking : service.clock = glance reading)

include ticking

theorem timely_call {call : StatusCall α} {after : Except ClientError α → Nat → σ → Prop}
    (performed : call.validate = .ok () → Timely none before (service.perform call)
      (fun answer => after (answer.mapError .ofService)) cut)
    (refused : ∀ failure now state, before now state → after (.error failure) now state) :
    Timely none before (service.client.call call) after cut := by
  have looked : Timely none before service.clock (fun _ => before) cut := by
    rw [ticking]
    exact Timely.change fun _ _ h => h
  have served : Timely none before (service.serve call) (fun answer => after (answer.mapError .ofService)) cut := by
    refine looked.bind fun now => ?_
    split
    · split
      · exact performed ‹_›
      · exact Timely.pure (refused _)
    · exact Timely.pure (refused _)
  exact served.bind fun answer => Timely.pure fun _ _ h => h

theorem timely_read {request : ReadRequest} {after : Except ClientError ReadResponse → Nat → σ → Prop}
    (valid : request.header.validate = .ok ())
    (found : Timely none before (service.store.call (.get (Sessions.key request.header.sessionId)))
      (fun answer => after (request.answer answer)) cut)
    (refused : ∀ failure now state, before now state → after (.error failure) now state) :
    Timely none before (service.client.call (.read request)) after cut := by
  have read : Timely none before (Sessions.read service.store request.header.sessionId)
      (fun answer => after (request.respond answer)) cut := by
    refine found.bind fun answer => ?_
    cases answer <;> exact Timely.pure fun _ _ h => h
  refine timely_call ticking (fun _ => read.bind fun answer => ?_) refused
  cases answer with
  | error source => exact Timely.pure fun _ _ h => h
  | ok record =>
    dsimp only
    rw [ReadResponse.ofRecord_of_header valid]
    exact Timely.pure fun _ _ h => h

theorem timely_update {request : UpdateRequest} {after : Except ClientError Ack → Nat → σ → Prop}
    (written : request.validate = .ok () → Timely none before
      (service.store.call (.put (Sessions.key request.header.sessionId)
        (RecordText.encode (some request.caller) request.auth) request.lease request.ttl))
      (fun answer => after (Ack.answer request.header.sessionId answer)) cut)
    (refused : ∀ failure now state, before now state → after (.error failure) now state) :
    Timely none before (service.client.call (.update request)) after cut := by
  refine timely_call ticking (fun valid => ?_) refused
  have updated : Timely none before (Sessions.update service.store request.header.sessionId request.caller
      request.auth request.lease request.ttl) (fun answer => after (Ack.respond answer)) cut := by
    refine (written valid).bind fun answer => ?_
    cases answer <;> exact Timely.pure fun _ _ h => h
  refine updated.bind fun answer => ?_
  cases answer <;> exact Timely.pure fun _ _ h => h

theorem timely_delete {request : DeleteRequest} {after : Except ClientError Ack → Nat → σ → Prop}
    (removed : Timely none before (service.store.call (.delete (Sessions.key request.header.sessionId)))
      (fun answer => after (Ack.answer request.header.sessionId answer)) cut)
    (refused : ∀ failure now state, before now state → after (.error failure) now state) :
    Timely none before (service.client.call (.delete request)) after cut := by
  have deleted : Timely none before (Sessions.delete service.store request.header.sessionId)
      (fun answer => after (Ack.respond answer)) cut := by
    refine removed.bind fun answer => ?_
    cases answer <;> exact Timely.pure fun _ _ h => h
  refine timely_call ticking (fun _ => deleted.bind fun answer => ?_) refused
  cases answer <;> exact Timely.pure fun _ _ h => h

end

theorem timely_verify {client : StatusClient (Timed σ)} {verifier : Verifier} {header : Header}
    {method : Method} {transport : Transport} {after : Except VerifyError AcceptedTransition → Nat → σ → Prop}
    (middle : Except ClientError ReadResponse → Nat → σ → Prop)
    (invalid : ∀ violation now state, before now state → after (.error (.invalidRequest violation)) now state)
    (read : header.validate = .ok () → Timely none before (client.call (.read { header })) middle cut)
    (refused : ∀ answer failure now state, verifier.decision header method transport answer = .error failure →
      middle answer now state → after (.error failure) now state)
    (write : ∀ response plan, verifier.judge header method transport response.record = .ok plan →
      Timely none (middle (.ok response)) (plan.write.send client) (fun ack => after (plan.conclude ack)) cut) :
    Timely none before (verifier.verify client header method transport) after cut := by
  unfold Verifier.verify
  cases hopening : Verifier.opening header with
  | error failure =>
    obtain ⟨violation, rfl⟩ := Verifier.opening_eq_error hopening
    exact Timely.pure (invalid violation)
  | ok request =>
    obtain ⟨valid, rfl⟩ := Verifier.opening_eq_ok_iff.1 hopening
    refine (read valid).bind fun answer => ?_
    cases hdecision : verifier.decision header method transport answer with
    | error failure => exact Timely.pure fun now state => refused answer failure now state hdecision
    | ok plan =>
      cases answer with
      | error source => cases hdecision
      | ok response => exact (write response plan hdecision).bind fun ack => Timely.pure fun _ _ h => h

end Scenario

end VoterSession
