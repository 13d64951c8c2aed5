import Mathlib.Data.List.Infix
import VoterSession.Workflow.Transition
set_option autoImplicit false

/-!
The five tables as one protocol. Each tag has one route through the methods, the polls on it may be
repeated, and a row that continues a session goes one step along the route of its tag. Main statements:
`evaluate_empty` and `evaluate_record`, which say all that an accepted step can be, and `evaluate_poll`.
-/
namespace VoterSession

/-- The stage whose lifetime the record gets when this method advances the session. -/
def Method.stage : Method → Stage
  | authenticate | authenticateStatus | challenge | token => .auth
  | voterChoices => .choice
  | getCertificate | getCertificateStatus | sign | signStatus => .vote
  | vote | verify => .verify

def Method.polls : Method → Bool
  | authenticateStatus | getCertificateStatus | signStatus | verify => true
  | _ => false

/-- The methods of a session in order, up to the vote. -/
def AuthTag.route : AuthTag → List Method
  | unresolved => []
  | idCard => [.voterChoices, .vote]
  | webEid => [.challenge, .token, .voterChoices, .vote]
  | mobileId | smartId =>
    [.authenticate, .authenticateStatus, .voterChoices, .getCertificate, .getCertificateStatus, .sign,
      .signStatus, .vote]

/-- The route with the checks of a vote that was handed over. -/
def AuthTag.course (tag : AuthTag) : List Method := tag.route ++ [.verify]

/-- The next method on the course, or the same one again when it is a poll. -/
def AuthTag.Follows (tag : AuthTag) (prior method : Method) : Prop :=
  prior = method ∧ method.polls = true ∨ [prior, method] <:+: tag.course

instance (tag : AuthTag) (prior method : Method) : Decidable (tag.Follows prior method) :=
  inferInstanceAs (Decidable (_ ∨ _))

namespace WorkflowKind

def serving (tag : AuthTag) : Method → WorkflowKind
  | .authenticate | .authenticateStatus | .getCertificate | .getCertificateStatus | .sign | .signStatus =>
    mobileIdFlow tag
  | .challenge | .token => webEid
  | .voterChoices => choiceSelection
  | .vote => voteCasting
  | .verify => verification

/-- Whether a call to this service may start a session, and bind it to this tag. -/
def Opens (kind : WorkflowKind) (method : Method) (transport : Transport) (tag : AuthTag) : Prop :=
  match method with
  | .authenticate => (tag = .mobileId ∨ tag = .smartId) ∧ kind = .mobileIdFlow tag
  | .challenge => tag = .webEid
  | .voterChoices => tag = .idCard ∧ transport = .tls
  | _ => False

instance (kind : WorkflowKind) (method : Method) (transport : Transport) (tag : AuthTag) :
    Decidable (kind.Opens method transport tag) := by
  unfold Opens
  split <;> infer_instance

end WorkflowKind

theorem Method.mem_all (method : Method) : method ∈ Method.all := by cases method <;> decide

theorem AuthTag.mem_all (tag : AuthTag) : tag ∈ AuthTag.all := by cases tag <;> decide

theorem Transport.mem_all (transport : Transport) : transport ∈ Transport.all := by
  cases transport <;> decide

theorem AuthTag.mem_resolved_iff {tag : AuthTag} : tag ∈ AuthTag.resolved ↔ tag.isResolved = true := by
  cases tag <;> decide

namespace WorkflowTable

def HasRow (table : WorkflowTable) (prior : Method) (tag : AuthTag) (method : Method) : Prop :=
  ∃ rule ∈ table.rules, rule.method = method ∧ ∃ row ∈ rule.rows,
    row.priorCaller = some prior ∧ row.priorAuth.accepts tag = true

/-- What a rule does to a record that `prior` left: a lease is kept only within one stage, and the vote, and
nothing else, removes the record where it is not handed over. -/
def Keeping (completion : VoteCompletion) (prior : Method) (rule : TransitionRule) : Prop :=
  match rule.action with
  | .update stage fresh => stage = rule.method.stage ∧ (fresh = false → prior.stage = rule.method.stage) ∧
      (rule.method = .vote → completion = .handoff)
  | .delete => rule.method = .vote ∧ completion = .delete

instance (completion : VoteCompletion) (prior : Method) (rule : TransitionRule) :
    Decidable (Keeping completion prior rule) := by
  unfold Keeping
  split <;> infer_instance

def Starting (kind : WorkflowKind) (rule : TransitionRule) (row : TransitionRow) : Prop :=
  row.priorCaller = none → row.priorAuth = .empty ∧
    (∃ fresh ∈ [true, false], rule.action = .update rule.method.stage fresh) ∧
      ∃ tag ∈ AuthTag.resolved, row.assign = .assign tag ∧ ∀ transport ∈ Transport.all,
        row.admits transport = true → kind.Opens rule.method transport tag ∧
          kind = .serving tag rule.method

def Continuing (kind : WorkflowKind) (completion : VoteCompletion) (rule : TransitionRule)
    (row : TransitionRow) : Prop :=
  ∀ prior ∈ Method.all, row.priorCaller = some prior → row.assign = .keep ∧
    Keeping completion prior rule ∧ ∀ tag ∈ AuthTag.all, row.priorAuth.accepts tag = true →
      tag ∈ AuthTag.resolved ∧ tag.Follows prior rule.method ∧ kind = .serving tag rule.method

instance (kind : WorkflowKind) (rule : TransitionRule) (row : TransitionRow) :
    Decidable (Starting kind rule row) := inferInstanceAs (Decidable (_ → _))

instance (kind : WorkflowKind) (completion : VoteCompletion) (rule : TransitionRule)
    (row : TransitionRow) : Decidable (Continuing kind completion rule row) :=
  inferInstanceAs (Decidable (∀ prior ∈ Method.all, _))

variable {kind : WorkflowKind} {completion : VoteCompletion} {table : WorkflowTable}

/-- The two shapes of a row, over all tables of a deployment. -/
theorem rows_regular (built : ofKind kind completion = .ok table) : ∀ rule ∈ table.rules,
    ∀ row ∈ rule.rows, Starting kind rule row ∧ Continuing kind completion rule row := by
  cases kind with
  | mobileIdFlow tag =>
    simp only [ofKind] at built
    split at built
    · rename_i phone
      cases built
      obtain rfl | rfl := phone <;> cases completion <;> decide +kernel
    · cases built
  | choiceSelection => cases built; cases completion <;> decide +kernel
  | webEid => cases built; cases completion <;> decide +kernel
  | voteCasting => cases built; cases completion <;> decide +kernel
  | verification => cases built; cases completion <;> decide +kernel

theorem evaluate_eq_ok_iff {method : Method} {record : SessionRecord} {transport : Transport}
    {step : Transition} : table.evaluate method record transport = .ok step ↔
      ∃ rule row, table.rule? method = some rule ∧
        (rule.rows.find? fun row => row.matchesRecord record && row.admits transport) = some row ∧
        step = transition rule row record := by
  unfold evaluate
  cases table.rule? method with
  | none => simp
  | some rule =>
    cases hrow : rule.rows.find? fun row => row.matchesRecord record && row.admits transport with
    | none =>
      simp only [hrow]
      split <;> simp [hrow]
    | some row => simp [hrow, eq_comm]

theorem evaluate_eq_ok {method : Method} {record : SessionRecord} {transport : Transport}
    {step : Transition} (h : table.evaluate method record transport = .ok step) :
    ∃ rule ∈ table.rules, rule.method = method ∧ ∃ row ∈ rule.rows,
      row.matchesRecord record = true ∧ row.admits transport = true ∧
        step = transition rule row record := by
  obtain ⟨rule, row, hrule, hrow, rfl⟩ := evaluate_eq_ok_iff.1 h
  have served : rule.method = method := by simpa using List.find?_some hrule
  have fits := List.find?_some hrow
  rw [Bool.and_eq_true] at fits
  exact ⟨rule, List.mem_of_find?_eq_some hrule, served, row, List.mem_of_find?_eq_some hrow, fits.1,
    fits.2, rfl⟩

theorem evaluate_empty (built : ofKind kind completion = .ok table) {method : Method}
    {transport : Transport} {step : Transition}
    (h : table.evaluate method .empty transport = .ok step) :
    ∃ tag, tag.isResolved = true ∧ kind.Opens method transport tag ∧ kind = .serving tag method ∧
      step = ⟨method, tag, .none, .update method.stage⟩ := by
  obtain ⟨rule, hrule, rfl, row, hrow, fits, admits, rfl⟩ := evaluate_eq_ok h
  have start : row.priorCaller = none := by
    rw [TransitionRow.matchesRecord, Bool.and_eq_true, beq_iff_eq] at fits
    exact fits.1
  obtain ⟨_, ⟨fresh, _, action⟩, tag, resolved, assign, opens⟩ :=
    (rows_regular built rule hrule row hrow).1 start
  obtain ⟨opens, serving⟩ := opens transport transport.mem_all admits
  refine ⟨tag, AuthTag.mem_resolved_iff.1 resolved, opens, serving, ?_⟩
  simp only [transition, action, assign, AuthAssign.apply, SessionRecord.empty, ite_self]

/-- A session with a record goes one step along the course of its tag, or is ended by its vote. -/
theorem evaluate_record (built : ofKind kind completion = .ok table) {method prior : Method}
    {tag : AuthTag} {lease : LeaseId} {transport : Transport} {step : Transition}
    (h : table.evaluate method ⟨some prior, tag, lease⟩ transport = .ok step) :
    (tag.isResolved = true ∧ table.HasRow prior tag method ∧ tag.Follows prior method ∧
      kind = .serving tag method) ∧
    ((step.lease = .none ∨ step.lease = lease ∧ prior.stage = method.stage) ∧
        (method = .vote → completion = .handoff) ∧
        step = ⟨method, tag, step.lease, .update method.stage⟩ ∨
      method = .vote ∧ completion = .delete ∧ step = ⟨.vote, tag, lease, .delete⟩) := by
  obtain ⟨rule, hrule, rfl, row, hrow, fits, _, rfl⟩ := evaluate_eq_ok h
  rw [TransitionRow.matchesRecord, Bool.and_eq_true, beq_iff_eq] at fits
  obtain ⟨left, accepts⟩ := fits
  obtain ⟨assign, keeping, course⟩ :=
    (rows_regular built rule hrule row hrow).2 prior prior.mem_all left
  obtain ⟨resolved, follows, serving⟩ := course tag tag.mem_all accepts
  refine ⟨⟨AuthTag.mem_resolved_iff.1 resolved, ⟨rule, hrule, rfl, row, hrow, left, accepts⟩, follows,
    serving⟩, ?_⟩
  unfold Keeping at keeping
  cases haction : rule.action with
  | update stage fresh =>
    rw [haction] at keeping
    obtain ⟨rfl, same, handed⟩ := keeping
    refine .inl ⟨?_, handed, ?_⟩
    · cases fresh with
      | true => exact .inl (by simp only [transition, haction, if_true])
      | false => exact .inr ⟨by simp [transition, haction], same rfl⟩
    · simp only [transition, haction, assign, AuthAssign.apply]
  | delete =>
    rw [haction] at keeping
    refine .inr ⟨keeping.1, keeping.2, ?_⟩
    simp only [transition, haction, assign, AuthAssign.apply, keeping.1]

theorem resolved_of_evaluate (built : ofKind kind completion = .ok table) {method : Method}
    {record : SessionRecord} {transport : Transport} {step : Transition}
    (h : table.evaluate method record transport = .ok step) : step.auth.isResolved = true := by
  obtain ⟨rule, hrule, _, row, hrow, fits, admits, rfl⟩ := evaluate_eq_ok h
  rw [TransitionRow.matchesRecord, Bool.and_eq_true, beq_iff_eq] at fits
  obtain ⟨left, accepts⟩ := fits
  obtain ⟨starting, continuing⟩ := rows_regular built rule hrule row hrow
  cases hprior : row.priorCaller with
  | none =>
    obtain ⟨_, _, tag, resolved, assign, _⟩ := starting hprior
    simp only [transition, assign, AuthAssign.apply]
    exact AuthTag.mem_resolved_iff.1 resolved
  | some prior =>
    obtain ⟨keep, _, course⟩ := continuing prior prior.mem_all hprior
    simp only [transition, keep, AuthAssign.apply]
    exact AuthTag.mem_resolved_iff.1 (course record.auth record.auth.mem_all accepts).1

/-! ### Every step along the course is accepted by the service that answers it -/

theorem evaluate_opens (built : ofKind kind completion = .ok table) {method : Method}
    {transport : Transport} {tag : AuthTag} (serving : kind = .serving tag method)
    (opens : kind.Opens method transport tag) :
    table.evaluate method .empty transport = .ok ⟨method, tag, .none, .update method.stage⟩ := by
  subst serving
  cases method <;> simp only [WorkflowKind.Opens] at opens
  case authenticate =>
    obtain ⟨rfl | rfl, _⟩ := opens <;> cases built <;> rfl
  case challenge =>
    cases opens
    cases built
    rfl
  case voterChoices =>
    obtain ⟨rfl, rfl⟩ := opens
    cases built
    rfl

def Admits (table : WorkflowTable) (prior : Method) (tag : AuthTag) (method : Method) : Prop :=
  ∃ rule ∈ table.rule? method, ∃ row ∈ rule.rows, row.priorCaller = some prior ∧
    row.priorAuth.accepts tag = true ∧ row.transport = none

instance (table : WorkflowTable) (prior : Method) (tag : AuthTag) (method : Method) :
    Decidable (table.Admits prior tag method) := by
  unfold Admits
  infer_instance

theorem admits_of_follows {completion : VoteCompletion} : ∀ tag ∈ AuthTag.resolved, ∀ prior ∈ Method.all,
    ∀ method ∈ Method.all, tag.Follows prior method →
      ∀ table ∈ (ofKind (.serving tag method) completion).toOption, table.Admits prior tag method := by
  cases completion <;> decide +kernel

theorem evaluate_follows (built : ofKind kind completion = .ok table) {method prior : Method}
    {tag : AuthTag} (lease : LeaseId) (transport : Transport) (resolved : tag.isResolved = true)
    (serving : kind = .serving tag method) (follows : tag.Follows prior method) :
    ∃ step, table.evaluate method ⟨some prior, tag, lease⟩ transport = .ok step := by
  have named := AuthTag.mem_resolved_iff.2 resolved
  have found : (ofKind (.serving tag method) completion).toOption = some table := by
    rw [← serving, built]
    rfl
  obtain ⟨rule, hrule, row, hrow, left, accepts, either⟩ :=
    admits_of_follows tag named prior prior.mem_all method method.mem_all follows table found
  rw [Option.mem_def] at hrule
  have some_row : (rule.rows.find? fun row =>
      row.matchesRecord ⟨some prior, tag, lease⟩ && row.admits transport).isSome = true := by
    rw [List.find?_isSome]
    refine ⟨row, hrow, ?_⟩
    rw [TransitionRow.matchesRecord, TransitionRow.admits, left, accepts, either]
    simp
  obtain ⟨first, hfirst⟩ := Option.isSome_iff_exists.1 some_row
  refine ⟨transition rule first ⟨some prior, tag, lease⟩, ?_⟩
  simp only [evaluate, hrule, hfirst]

/-! ### Polls -/

def KeepsPolled (table : WorkflowTable) : Prop :=
  ∀ rule ∈ table.rules, rule.method.polls = true → rule.action = .update rule.method.stage false ∧
    ∀ row ∈ rule.rows, row.priorCaller.isSome = true

instance (table : WorkflowTable) : Decidable table.KeepsPolled := inferInstanceAs (Decidable (∀ rule ∈ table.rules, _))

theorem keepsPolled (built : ofKind kind completion = .ok table) : table.KeepsPolled := by
  cases kind with
  | mobileIdFlow tag =>
    simp only [ofKind] at built
    split at built
    · rename_i phone
      cases built
      obtain rfl | rfl := phone <;> decide
    · cases built
  | choiceSelection => cases built; decide
  | webEid => cases built; decide
  | voteCasting => cases built; cases completion <;> decide
  | verification => cases built; decide

section

variable {method : Method} (built : ofKind kind completion = .ok table) (polls : method.polls = true)

include built polls

theorem evaluate_poll {tag : AuthTag} (row : table.HasRow method tag method) (lease : LeaseId) (transport : Transport) :
    table.evaluate method ⟨some method, tag, lease⟩ transport = .ok ⟨method, tag, lease, .update method.stage⟩ := by
  obtain ⟨rule, hrule, rfl, own, hown, left, accepts⟩ := row
  obtain ⟨_, _, course⟩ := (rows_regular built rule hrule own hown).2 rule.method rule.method.mem_all left
  obtain ⟨resolved, follows, serving⟩ := course tag tag.mem_all accepts
  have isResolved := AuthTag.mem_resolved_iff.1 resolved
  obtain ⟨step, accepted⟩ := evaluate_follows built lease transport isResolved serving follows
  obtain ⟨first, hfirst, served, next, hnext, fits, _, rfl⟩ := evaluate_eq_ok accepted
  have action := (keepsPolled built first hfirst (served ▸ polls)).1
  rw [TransitionRow.matchesRecord, Bool.and_eq_true, beq_iff_eq] at fits
  have assign := ((rows_regular built first hfirst next hnext).2 rule.method rule.method.mem_all fits.1).1
  rw [accepted]
  simp [transition, action, assign, AuthAssign.apply, served]

theorem evaluate_poll_empty {tag : AuthTag} (row : table.HasRow method tag method) (transport : Transport) :
    table.evaluate method .empty transport = .error (.invalidCallerOrAuth method none .unresolved) := by
  obtain ⟨served, hserved, same, _⟩ := row
  have found : (table.rule? method).isSome = true := by
    rw [rule?, List.find?_isSome]
    exact ⟨served, hserved, beq_iff_eq.2 same⟩
  obtain ⟨rule, hrule⟩ := Option.isSome_iff_exists.1 found
  have polled : rule.method = method := by simpa using List.find?_some hrule
  have continuing := (keepsPolled built rule (List.mem_of_find?_eq_some hrule) (polled ▸ polls)).2
  have unmatched : ∀ own ∈ rule.rows, own.matchesRecord .empty = false := by
    intro own hown
    obtain ⟨prior, hprior⟩ := Option.isSome_iff_exists.1 (continuing own hown)
    rw [TransitionRow.matchesRecord, hprior]
    rfl
  have none_fits : (rule.rows.find? fun own => own.matchesRecord .empty && own.admits transport) = none := by
    rw [List.find?_eq_none]
    intro own hown
    simp [unmatched own hown]
  have none_starts : (rule.rows.any fun own => own.matchesRecord .empty && !own.admits transport) = false := by
    rw [List.any_eq_false]
    intro own hown
    simp [unmatched own hown]
  simp only [evaluate, hrule, none_fits, none_starts, Bool.and_false, Bool.false_eq_true, if_false]
  rfl

end

end WorkflowTable

end VoterSession
