import VoterSession.Proofs.Session.Request
import VoterSession.Proofs.Workflow.Rows
import VoterSession.Service.Verifier
set_option autoImplicit false

/-!
One call of a front end, between its two messages: the record that was read decides which write the call
asks for.
-/
namespace VoterSession

theorem bind_run {σ α β : Type} (first : StateM σ α) (next : α → StateM σ β) (state : σ) :
    (first >>= next).run state = (next (first.run state).1).run (first.run state).2 := rfl

theorem Verifier.opening_eq_ok_iff {header : Header} {request : ReadRequest} :
    Verifier.opening header = .ok request ↔ header.validate = .ok () ∧ request = { header } := by
  rw [← ReadRequest.ofHeader_eq_ok_iff]
  unfold Verifier.opening
  cases ReadRequest.ofHeader header with
  | error violation => simp [Except.mapError]
  | ok built => simp [Except.mapError]

theorem Verifier.opening_of_invalid {header : Header} {violation : Violation}
    (invalid : header.validate = .error violation) : opening header = .error (.invalidRequest violation) := by
  rw [opening, ReadRequest.ofHeader_eq, invalid]
  rfl

theorem Verifier.opening_eq_error {header : Header} {failure : VerifyError}
    (h : Verifier.opening header = .error failure) : ∃ violation, failure = .invalidRequest violation := by
  unfold Verifier.opening at h
  cases hrequest : ReadRequest.ofHeader header with
  | ok request => simp [hrequest, Except.mapError] at h
  | error violation =>
    rw [hrequest] at h
    cases h
    exact ⟨violation, rfl⟩

theorem Verifier.plan_cases {verifier : Verifier} {header : Header} {step : Transition} {plan : Plan}
    (h : verifier.plan header step = .ok plan) :
    (∃ stage request, step.advance = .update stage ∧ plan.write = .update request ∧
      UpdateRequest.ofFields header step.method step.auth step.lease (verifier.ttls.ttl stage) =
        .ok request) ∨
    ∃ request, step.advance = .delete ∧ plan.write = .delete request ∧
      DeleteRequest.ofHeader header = .ok request := by
  unfold Verifier.plan at h
  cases hadvance : step.advance with
  | update stage =>
    simp only [hadvance] at h
    split at h <;> cases h
    exact .inl ⟨stage, _, rfl, rfl, ‹_›⟩
  | delete =>
    simp only [hadvance] at h
    split at h <;> cases h
    exact .inr ⟨_, rfl, rfl, ‹_›⟩

theorem Verifier.plan_accepted {verifier : Verifier} {header : Header} {step : Transition} {plan : Plan}
    (h : verifier.plan header step = .ok plan) : plan.accepted.method = step.method ∧
    plan.accepted.auth = step.auth ∧ (plan.accepted.outcome = .deleted ↔ step.advance = .delete) := by
  unfold Verifier.plan at h
  cases hadvance : step.advance with
  | update stage =>
    simp only [hadvance] at h
    split at h <;> cases h
    exact ⟨rfl, rfl, by simp⟩
  | delete =>
    simp only [hadvance] at h
    split at h <;> cases h
    exact ⟨rfl, rfl, by simp⟩

theorem Verifier.judge_eq_ok {verifier : Verifier} {header : Header} {method : Method} {transport : Transport}
    {record : SessionRecord} {plan : Plan} (h : verifier.judge header method transport record = .ok plan) :
    ∃ step, verifier.table.evaluate method record transport = .ok step ∧ step.method = method ∧
      verifier.plan header step = .ok plan := by
  unfold Verifier.judge at h
  split at h
  · rename_i step hstep
    obtain ⟨rule, _, served, row, _, _, _, rfl⟩ := WorkflowTable.evaluate_eq_ok hstep
    exact ⟨_, hstep, served, h⟩
  · cases h

theorem Verifier.plan_eq_error {verifier : Verifier} {header : Header} {step : Transition} {failure : VerifyError}
    (h : verifier.plan header step = .error failure) : ∃ violation, failure = .invalidRequest violation := by
  unfold Verifier.plan at h
  cases hadvance : step.advance <;> simp only [hadvance] at h <;> split at h <;> cases h
  · exact ⟨_, rfl⟩
  · exact ⟨_, rfl⟩

theorem Verifier.judge_eq_error {verifier : Verifier} {header : Header} {method : Method}
    {transport : Transport} {record : SessionRecord} {failure : VerifyError}
    (h : verifier.judge header method transport record = .error failure) :
    (∃ rejection, verifier.table.evaluate method record transport = .error rejection ∧
      failure = .rejected rejection) ∨ ∃ violation, failure = .invalidRequest violation := by
  unfold Verifier.judge at h
  split at h
  · exact .inr (plan_eq_error h)
  · cases h
    exact .inl ⟨_, ‹_›, rfl⟩

/-- A method that a front end was asked for, with the service that it belongs to. -/
structure Call where
  kind : WorkflowKind
  completion : VoteCompletion
  verifier : Verifier
  built : WorkflowTable.ofKind kind completion = .ok verifier.table
  header : Header
  method : Method
  transport : Transport

namespace Call

def session (call : Call) : SessionId := call.header.sessionId

def key (call : Call) : String := Sessions.key call.session

def lifetime (call : Call) : Ttl := call.verifier.ttls.ttl call.method.stage

def judge (call : Call) (record : SessionRecord) : Except VerifyError Plan :=
  call.verifier.judge call.header call.method call.transport record

def request (call : Call) (tag : AuthTag) (lease : LeaseId) : UpdateRequest :=
  { header := call.header, caller := call.method, auth := tag, lease, ttl := call.lifetime }

def updating (call : Call) (tag : AuthTag) (lease : LeaseId) : Plan where
  write := .update (call.request tag lease)
  accepted := { method := call.method, auth := tag, lease, outcome := .updated call.lifetime
                reasonCode := 0x53530001 }

def deleting (call : Call) (tag : AuthTag) (lease : LeaseId) : Plan where
  write := .delete { header := call.header }
  accepted := { method := call.method, auth := tag, lease, outcome := .deleted, reasonCode := 0x53530002 }

variable {call : Call} {record : SessionRecord} {plan : Plan}

theorem request_valid {tag : AuthTag} {lease : LeaseId} (valid : call.header.validate = .ok ())
    (resolved : tag.isResolved = true) (counted : 0 ≤ lease.number) :
    (call.request tag lease).validate = .ok () :=
  (UpdateRequest.validate_eq_ok_iff rfl).2 ⟨valid, counted, resolved⟩

theorem judge_eq_ok (h : call.judge record = .ok plan) : ∃ step,
    call.verifier.table.evaluate call.method record call.transport = .ok step ∧
      call.verifier.plan call.header step = .ok plan := by
  obtain ⟨step, hstep, _, hplan⟩ := Verifier.judge_eq_ok h
  exact ⟨step, hstep, hplan⟩

theorem judge_of_evaluate {step : Transition}
    (h : call.verifier.table.evaluate call.method record call.transport = .ok step) :
    call.judge record = call.verifier.plan call.header step := by
  simp only [judge, Verifier.judge, h]

theorem plan_update {tag : AuthTag} {lease : LeaseId} :
    call.verifier.plan call.header ⟨call.method, tag, lease, .update call.method.stage⟩ = .ok plan ↔
      (call.header.validate = .ok () ∧ 0 ≤ lease.number ∧ tag.isResolved = true) ∧
        plan = call.updating tag lease := by
  simp only [Verifier.plan]
  cases hrequest : UpdateRequest.ofFields call.header call.method tag lease
      (call.verifier.ttls.ttl call.method.stage) with
  | error violation =>
    constructor
    · intro h
      cases h
    · rintro ⟨valid, _⟩
      rw [UpdateRequest.ofFields_eq_ok_iff.2 ⟨valid, rfl⟩] at hrequest
      cases hrequest
  | ok request =>
    obtain ⟨valid, rfl⟩ := UpdateRequest.ofFields_eq_ok_iff.1 hrequest
    constructor
    · intro h
      cases h
      exact ⟨valid, rfl⟩
    · rintro ⟨_, rfl⟩
      rfl

theorem plan_delete {tag : AuthTag} {lease : LeaseId} :
    call.verifier.plan call.header ⟨call.method, tag, lease, .delete⟩ = .ok plan ↔
      call.header.validate = .ok () ∧ plan = call.deleting tag lease := by
  simp only [Verifier.plan]
  cases hrequest : DeleteRequest.ofHeader call.header with
  | error violation =>
    constructor
    · intro h
      cases h
    · rintro ⟨valid, _⟩
      rw [DeleteRequest.ofHeader_eq_ok_iff.2 ⟨valid, rfl⟩] at hrequest
      cases hrequest
  | ok request =>
    obtain ⟨valid, rfl⟩ := DeleteRequest.ofHeader_eq_ok_iff.1 hrequest
    constructor
    · intro h
      cases h
      exact ⟨valid, rfl⟩
    · rintro ⟨_, rfl⟩
      rfl

theorem judge_empty (h : call.judge .empty = .ok plan) : call.header.validate = .ok () ∧
    ∃ tag, tag.isResolved = true ∧ call.kind.Opens call.method call.transport tag ∧
      call.kind = .serving tag call.method ∧ plan = call.updating tag .none := by
  obtain ⟨step, hstep, hplan⟩ := judge_eq_ok h
  obtain ⟨tag, resolved, opens, serving, rfl⟩ := WorkflowTable.evaluate_empty call.built hstep
  obtain ⟨⟨valid, _⟩, rfl⟩ := plan_update.1 hplan
  exact ⟨valid, tag, resolved, opens, serving, rfl⟩

/-- On a session with a record a call goes one step along the course, or is the vote that ends it. -/
theorem judge_record {prior : Method} {tag : AuthTag} {lease : LeaseId}
    (h : call.judge ⟨some prior, tag, lease⟩ = .ok plan) : call.header.validate = .ok () ∧
    (tag.isResolved = true ∧ call.verifier.table.HasRow prior tag call.method ∧
      tag.Follows prior call.method ∧ call.kind = .serving tag call.method) ∧
    ((∃ asked : LeaseId, (asked = .none ∨ asked = lease ∧ prior.stage = call.method.stage) ∧
        0 ≤ asked.number ∧ (call.method = .vote → call.completion = .handoff) ∧
        plan = call.updating tag asked) ∨
      call.method = .vote ∧ call.completion = .delete ∧ plan = call.deleting tag lease) := by
  obtain ⟨step, hstep, hplan⟩ := judge_eq_ok h
  obtain ⟨course, ⟨asked, handed, shape⟩ | ⟨voted, removing, shape⟩⟩ :=
    WorkflowTable.evaluate_record call.built hstep
  · rw [shape] at hplan
    obtain ⟨⟨valid, counted, _⟩, rfl⟩ := plan_update.1 hplan
    exact ⟨valid, course, .inl ⟨step.lease, asked, counted, handed, rfl⟩⟩
  · rw [shape, ← voted] at hplan
    obtain ⟨valid, rfl⟩ := plan_delete.1 hplan
    exact ⟨valid, course, .inr ⟨voted, removing, rfl⟩⟩

theorem judge_opens {tag : AuthTag} (valid : call.header.validate = .ok ())
    (serving : call.kind = .serving tag call.method) (resolved : tag.isResolved = true)
    (opens : call.kind.Opens call.method call.transport tag) :
    call.judge .empty = .ok (call.updating tag .none) := by
  rw [judge_of_evaluate (WorkflowTable.evaluate_opens call.built serving opens), plan_update]
  exact ⟨⟨valid, Int.le_refl 0, resolved⟩, rfl⟩

theorem judge_follows {prior : Method} {tag : AuthTag} {lease : LeaseId}
    (valid : call.header.validate = .ok ()) (serving : call.kind = .serving tag call.method)
    (resolved : tag.isResolved = true) (counted : 0 ≤ lease.number)
    (follows : tag.Follows prior call.method) :
    ∃ plan, call.judge ⟨some prior, tag, lease⟩ = .ok plan := by
  obtain ⟨step, hstep⟩ :=
    WorkflowTable.evaluate_follows call.built lease call.transport resolved serving follows
  rw [judge_of_evaluate hstep]
  obtain ⟨_, ⟨asked, _, shape⟩ | ⟨voted, _, shape⟩⟩ := WorkflowTable.evaluate_record call.built hstep
  · have nonnegative : 0 ≤ step.lease.number := by
      obtain fresh | ⟨same, _⟩ := asked
      · rw [fresh]
        exact Int.le_refl 0
      · rw [same]
        exact counted
    rw [shape]
    exact ⟨_, plan_update.2 ⟨⟨valid, nonnegative, resolved⟩, rfl⟩⟩
  · rw [shape, ← voted]
    exact ⟨_, plan_delete.2 ⟨valid, rfl⟩⟩

end Call

end VoterSession
