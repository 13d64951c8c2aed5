import Mathlib.Logic.Equiv.Basic
import VoterSession.Proofs.Service.Call
import VoterSession.Proofs.Service.Moment
set_option autoImplicit false

/-!
What two runs have in common when their leases are numbered differently. `Labels` says which lease of one
run stands for which lease of the other; holdings, decisions and outcomes are alike up to a relation of
leases, and stay so when more leases are related. Main statements: `Call.judge_alike`, as a decision looks
at no lease, and `Labels.Matching.exists_rename`.
-/
namespace VoterSession

def VerifyError.source? : VerifyError → Option ClientError
  | rejected _ => none
  | status source => some source
  | notAcknowledged _ source => source

def VerifyError.NamesLease (failure : VerifyError) : Prop :=
  ∃ id lease, failure.source? = some (StatusService.refusal id (.leaseNotFound lease))

/-- Leases of one run, each with the lease of another run that stands for it. -/
abbrev Labels := List (LeaseId × LeaseId)

namespace Labels

def Pair (labels : Labels) (lease other : LeaseId) : Prop := (lease, other) ∈ labels

/-- Labels one to one, of leases that two stores have granted so far. -/
structure Matching (labels : Labels) (granted granted' : Int) : Prop where
  unnamed : labels.Pair .none .none
  single : ∀ {lease lease' other other' : LeaseId}, labels.Pair lease other →
    labels.Pair lease' other' → (lease = lease' ↔ other = other')
  counted : ∀ {lease other : LeaseId}, labels.Pair lease other →
    (0 ≤ lease.number ∧ lease.number ≤ granted) ∧ 0 ≤ other.number ∧ other.number ≤ granted'

variable {labels : Labels} {granted granted' : Int}

theorem pair_cons {a b lease other : LeaseId} :
    Pair ((a, b) :: labels) lease other ↔ lease = a ∧ other = b ∨ labels.Pair lease other := by
  rw [Pair, List.mem_cons, Prod.mk.injEq]
  rfl

theorem matching_start : Matching [(.none, .none)] 0 0 where
  unnamed := List.mem_singleton_self _
  single := by
    intro lease lease' other other' h h'
    cases List.mem_singleton.1 h
    cases List.mem_singleton.1 h'
    exact Iff.rfl
  counted := by
    intro lease other h
    cases List.mem_singleton.1 h
    decide

theorem Matching.grow (matching : labels.Matching granted granted') {later later' : Int}
    (more : granted ≤ later) (more' : granted' ≤ later') : labels.Matching later later' where
  unnamed := matching.unnamed
  single := matching.single
  counted := by
    intro lease other h
    obtain ⟨⟨low, high⟩, low', high'⟩ := matching.counted h
    exact ⟨⟨low, Int.le_trans high more⟩, low', Int.le_trans high' more'⟩

theorem Matching.grant (matching : labels.Matching granted granted') :
    Matching ((⟨granted + 1⟩, ⟨granted' + 1⟩) :: labels) (granted + 1) (granted' + 1) where
  unnamed := pair_cons.2 (.inr matching.unnamed)
  single := by
    have fresh : ∀ {lease other : LeaseId}, labels.Pair lease other →
        lease ≠ ⟨granted + 1⟩ ∧ other ≠ ⟨granted' + 1⟩ := by
      intro lease other h
      obtain ⟨⟨_, high⟩, _, high'⟩ := matching.counted h
      constructor <;> rintro rfl <;> simp only at high high' <;> omega
    intro lease lease' other other' h h'
    obtain ⟨rfl, rfl⟩ | h := pair_cons.1 h
    · obtain ⟨rfl, rfl⟩ | h' := pair_cons.1 h'
      · exact ⟨fun _ => rfl, fun _ => rfl⟩
      · exact ⟨fun same => absurd same.symm (fresh h').1, fun same => absurd same.symm (fresh h').2⟩
    · obtain ⟨rfl, rfl⟩ | h' := pair_cons.1 h'
      · exact ⟨fun same => absurd same (fresh h).1, fun same => absurd same (fresh h).2⟩
      · exact matching.single h h'
  counted := by
    intro lease other h
    have ⟨⟨_, high⟩, _, high'⟩ := matching.counted matching.unnamed
    simp only [LeaseId.none] at high high'
    obtain ⟨rfl, rfl⟩ | h := pair_cons.1 h
    · simp only
      omega
    · have bounds := matching.counted h
      omega

/-- One-to-one labels are part of a renaming of all leases. -/
theorem exists_rename (single : ∀ {lease lease' other other' : LeaseId}, labels.Pair lease other →
    labels.Pair lease' other' → (lease = lease' ↔ other = other')) :
    ∃ rename : Equiv.Perm LeaseId, ∀ {lease other : LeaseId}, labels.Pair lease other →
      rename lease = other := by
  induction labels with
  | nil => exact ⟨Equiv.refl _, by intro _ _ h; cases h⟩
  | cons first rest ih =>
    obtain ⟨a, b⟩ := first
    obtain ⟨rename, agrees⟩ := ih fun h h' => single (pair_cons.2 (.inr h)) (pair_cons.2 (.inr h'))
    refine ⟨rename.trans (Equiv.swap (rename a) b), ?_⟩
    intro lease other h
    rw [Equiv.trans_apply]
    have first := single h (pair_cons.2 (.inl ⟨rfl, rfl⟩))
    by_cases same : lease = a
    · rw [same, Equiv.swap_apply_left]
      exact (first.1 same).symm
    · -- the swap leaves the other labels alone, as neither of their leases is in the first
      obtain ⟨here, _⟩ | later := pair_cons.1 h
      · exact absurd here same
      · rw [← agrees later] at first ⊢
        exact Equiv.swap_apply_of_ne_of_ne (fun h => same (rename.injective h)) fun h => same (first.2 h)

end Labels

/-! ### Alike up to a relation of leases -/

structure HoldingAlike (R : LeaseId → LeaseId → Prop) (holding other : Holding) : Prop where
  value : holding.value = other.value
  lease : R holding.lease other.lease
  ttl : holding.ttl = other.ttl
  deadline : holding.deadline = other.deadline

/-- Both accepted or both failed, in the same way but for the leases that they name. -/
inductive OutcomeAlike (R : LeaseId → LeaseId → Prop) :
    Except VerifyError AcceptedTransition → Except VerifyError AcceptedTransition → Prop
  | accepted (step : AcceptedTransition) {lease : LeaseId} (related : R step.lease lease) :
    OutcomeAlike R (.ok step) (.ok { step with lease })
  | lapsed (method : Method) (id : SessionId) {lease other : LeaseId} (related : R lease other) :
    OutcomeAlike R (.error (.notAcknowledged method (some (StatusService.refusal id (.leaseNotFound lease)))))
      (.error (.notAcknowledged method (some (StatusService.refusal id (.leaseNotFound other)))))
  | failed {failure : VerifyError} (silent : ¬ failure.NamesLease) :
    OutcomeAlike R (.error failure) (.error failure)

inductive PlanAlike (R : LeaseId → LeaseId → Prop) (call : Call) : Plan → Plan → Prop
  | updating (tag : AuthTag) {lease other : LeaseId} (related : R lease other) :
    PlanAlike R call (call.updating tag lease) (call.updating tag other)
  | deleting (tag : AuthTag) {lease other : LeaseId} (related : R lease other) :
    PlanAlike R call (call.deleting tag lease) (call.deleting tag other)

inductive DecisionAlike (R : LeaseId → LeaseId → Prop) (call : Call) :
    Except VerifyError Plan → Except VerifyError Plan → Prop
  | planned {plan other : Plan} (alike : PlanAlike R call plan other) :
    DecisionAlike R call (.ok plan) (.ok other)
  | failed {failure : VerifyError} (silent : ¬ failure.NamesLease) :
    DecisionAlike R call (.error failure) (.error failure)

inductive AckAlike (R : LeaseId → LeaseId → Prop) :
    Except ClientError Ack → Except ClientError Ack → Prop
  | done : AckAlike R (.ok .done) (.ok .done)
  | lapsed (id : SessionId) {lease other : LeaseId} (related : R lease other) :
    AckAlike R (.error (StatusService.refusal id (.leaseNotFound lease)))
      (.error (StatusService.refusal id (.leaseNotFound other)))
  | failed {failure : ClientError}
    (silent : ∀ id lease, failure ≠ StatusService.refusal id (.leaseNotFound lease)) :
    AckAlike R (.error failure) (.error failure)

section Mono

variable {R S : LeaseId → LeaseId → Prop} (more : ∀ {lease other}, R lease other → S lease other)
include more

theorem HoldingAlike.mono {holding other : Holding} (h : HoldingAlike R holding other) :
    HoldingAlike S holding other := ⟨h.value, more h.lease, h.ttl, h.deadline⟩

theorem OutcomeAlike.mono {outcome other : Except VerifyError AcceptedTransition}
    (h : OutcomeAlike R outcome other) : OutcomeAlike S outcome other := by
  cases h with
  | accepted step related => exact .accepted step (more related)
  | lapsed method id related => exact .lapsed method id (more related)
  | failed silent => exact .failed silent

theorem PlanAlike.mono {call : Call} {plan other : Plan} (h : PlanAlike R call plan other) :
    PlanAlike S call plan other := by
  cases h with
  | updating tag related => exact .updating tag (more related)
  | deleting tag related => exact .deleting tag (more related)

end Mono

theorem rel_cases {α : Type} {alike : α → α → Prop} {a b : Option α} (h : Option.Rel alike a b) :
    a = none ∧ b = none ∨ ∃ x y, a = some x ∧ b = some y ∧ alike x y := by
  cases h with
  | none => exact .inl ⟨rfl, rfl⟩
  | some related => exact .inr ⟨_, _, rfl, rfl, related⟩

theorem rel_mono {α : Type} {alike similar : α → α → Prop} (more : ∀ {x y}, alike x y → similar x y)
    {a b : Option α} (h : Option.Rel alike a b) : Option.Rel similar a b := by
  cases h with
  | none => exact .none
  | some related => exact .some (more related)

theorem PlanAlike.conclude {R : LeaseId → LeaseId → Prop} {call : Call} {plan plan' : Plan} (alike : PlanAlike R call plan plan')
    {answer answer' : Except ClientError Ack} (answered : AckAlike R answer answer') :
    OutcomeAlike R (plan.conclude answer) (plan'.conclude answer') := by
  obtain ⟨method, accepted, accepted'⟩ : plan.accepted.method = plan'.accepted.method ∧
      ∃ lease, R plan.accepted.lease lease ∧ plan'.accepted = { plan.accepted with lease } := by
    cases alike with
    | updating tag related => exact ⟨rfl, _, related, rfl⟩
    | deleting tag related => exact ⟨rfl, _, related, rfl⟩
  obtain ⟨related, shape⟩ := accepted'
  cases answered with
  | done =>
    simp only [Plan.conclude, Ack.done, if_true, shape]
    exact .accepted _ related
  | lapsed id named =>
    simp only [Plan.conclude, ← method]
    exact .lapsed _ id named
  | failed silent =>
    simp only [Plan.conclude, ← method]
    refine .failed ?_
    rintro ⟨id, lease, names⟩
    exact silent id lease (Option.some.inj names)

/-! ### Failures that name no lease -/

theorem closed_text_ne (text key : String) :
    "session status service is outside its service window at " ++ text ≠
      "session store failure at " ++ key := by
  intro same
  have differing := congrArg (fun text : String => text.toList[10]?) same
  rw [String.toList_append, String.toList_append, List.getElem?_append_left (by decide),
    List.getElem?_append_left (by decide)] at differing
  revert differing
  decide

theorem closed_silent (serviceNow : Nat) (id : SessionId) (lease : LeaseId) :
    ClientError.ofService (.outsideWindow serviceNow) ≠
      StatusService.refusal id (.leaseNotFound lease) := by
  change ClientError.unavailable
      ("session status service is outside its service window at " ++ toString serviceNow) ≠
    .unavailable ("session store failure at " ++ Sessions.key id ++ ": " ++
      (StoreError.leaseNotFound lease).message)
  rw [Ne, ClientError.unavailable.injEq, String.append_assoc, String.append_assoc]
  exact closed_text_ne _ _

theorem invalid_silent (violation : Violation) : ¬ (VerifyError.invalidRequest violation).NamesLease := by
  rintro ⟨id, lease, same⟩
  cases same

/-! ### A decision looks at no lease -/

theorem WorkflowTable.evaluate_uniform (table : WorkflowTable) (method : Method) (caller : Option Method)
    (tag : AuthTag) (transport : Transport) :
    (∃ rejection, ∀ lease, table.evaluate method ⟨caller, tag, lease⟩ transport = .error rejection) ∨
    ∃ (left : Method) (bound : AuthTag) (advance : Advance),
      (∀ lease, table.evaluate method ⟨caller, tag, lease⟩ transport = .ok ⟨left, bound, .none, advance⟩) ∨
        ∀ lease, table.evaluate method ⟨caller, tag, lease⟩ transport = .ok ⟨left, bound, lease, advance⟩ := by
  simp only [evaluate, TransitionRow.matchesRecord, SessionRecord.isEmpty]
  cases table.rule? method with
  | none => exact .inl ⟨_, fun _ => rfl⟩
  | some rule =>
    simp only
    cases rule.rows.find? fun row =>
        (row.priorCaller == caller && row.priorAuth.accepts tag) && row.admits transport with
    | none =>
      by_cases closed : (caller.isNone && !tag.isResolved && rule.rows.any fun row =>
          row.priorCaller == caller && row.priorAuth.accepts tag && !row.admits transport) = true
      · exact .inl ⟨.emptySession method transport, fun _ => if_pos closed⟩
      · exact .inl ⟨.invalidCallerOrAuth method caller tag, fun _ => if_neg closed⟩
    | some row =>
      refine .inr ⟨rule.method, row.assign.apply tag, (transition rule row .empty).advance, ?_⟩
      simp only [transition]
      cases rule.action with
      | delete => exact .inr fun _ => rfl
      | update stage fresh =>
        cases fresh with
        | true => exact .inl fun _ => rfl
        | false => exact .inr fun _ => rfl

namespace Call

variable {R : LeaseId → LeaseId → Prop} {call : Call}

theorem plan_silent {step : Transition} {failure : VerifyError}
    (h : call.verifier.plan call.header step = .error failure) : ¬ failure.NamesLease := by
  simp only [Verifier.plan] at h
  split at h <;> split at h <;> cases h <;> exact invalid_silent _

theorem judge_silent {record : SessionRecord} {failure : VerifyError}
    (h : call.judge record = .error failure) : ¬ failure.NamesLease := by
  unfold judge Verifier.judge at h
  split at h
  · exact plan_silent h
  · cases h
    rintro ⟨_, _, same⟩
    cases same

theorem judge_empty_alike (unnamed : R .none .none) :
    DecisionAlike R call (call.judge .empty) (call.judge .empty) := by
  cases h : call.judge .empty with
  | error failure => exact .failed (judge_silent h)
  | ok plan =>
    obtain ⟨_, tag, _, _, _, rfl⟩ := judge_empty h
    exact .planned (.updating tag unnamed)

theorem judge_alike (unnamed : R .none .none) (valid : call.header.validate = .ok ()) (prior : Method)
    (tag : AuthTag) {lease other : LeaseId} (related : R lease other) (counted : 0 ≤ lease.number)
    (counted' : 0 ≤ other.number) : DecisionAlike R call (call.judge ⟨some prior, tag, lease⟩)
      (call.judge ⟨some prior, tag, other⟩) := by
  obtain ⟨rejection, rejected⟩ | ⟨method, bound, advance, either⟩ :=
    call.verifier.table.evaluate_uniform call.method (some prior) tag call.transport
  · have failed : ∀ lease, call.judge ⟨some prior, tag, lease⟩ = .error (.rejected rejection) := by
      intro lease
      simp only [judge, Verifier.judge, rejected]
    have first := failed lease
    rw [first, failed]
    exact .failed (judge_silent first)
  · have updating : ∀ {lease : LeaseId}, tag.isResolved = true → 0 ≤ lease.number →
        call.verifier.plan call.header ⟨call.method, tag, lease, .update call.method.stage⟩ =
          .ok (call.updating tag lease) := fun resolved counted =>
      plan_update.2 ⟨⟨valid, counted, resolved⟩, rfl⟩
    have deleting : ∀ lease, call.verifier.plan call.header ⟨call.method, tag, lease, .delete⟩ =
        .ok (call.deleting tag lease) := fun _ => plan_delete.2 ⟨valid, rfl⟩
    obtain fresh | kept := either
    · rw [judge_of_evaluate (fresh lease), judge_of_evaluate (fresh other)]
      obtain ⟨⟨resolved, _⟩, ⟨_, _, shape⟩ | ⟨voted, _, shape⟩⟩ :=
        WorkflowTable.evaluate_record call.built (fresh lease)
      · cases shape
        have named : 0 ≤ LeaseId.none.number := Int.le_refl 0
        rw [updating resolved named]
        exact .planned (.updating tag unnamed)
      · cases shape
        rw [← voted, deleting]
        exact .planned (.deleting tag unnamed)
    · rw [judge_of_evaluate (kept lease), judge_of_evaluate (kept other)]
      obtain ⟨⟨resolved, _⟩, ⟨_, _, shape⟩ | ⟨voted, _, shape⟩⟩ :=
        WorkflowTable.evaluate_record call.built (kept lease)
      · cases shape
        rw [updating resolved counted, updating resolved counted']
        exact .planned (.updating tag related)
      · cases shape
        rw [← voted, deleting, deleting]
        exact .planned (.deleting tag related)

end Call

end VoterSession
