import VoterSession.Proofs.Service.Call
set_option autoImplicit false

/-!
A verification against a peer of which nothing is known: what is sent, whatever is answered, and what is reported
of the answers. Main statement: `verification_trace`.
-/
namespace VoterSession

inductive Exchange where
  | read (request : ReadRequest) (answer : Except ClientError ReadResponse)
  | write (write : SessionWrite) (answer : Except ClientError Ack)

/-- How a peer answers, which may depend on all that was exchanged before. -/
structure Conduct where
  read : List Exchange → ReadRequest → Except ClientError ReadResponse
  write : List Exchange → SessionWrite → Except ClientError Ack

namespace Conduct

variable (conduct : Conduct)

def answer {α : Type} : StatusCall α → List Exchange → Except ClientError α × List Exchange
  | .read request, sent => (conduct.read sent request, sent ++ [.read request (conduct.read sent request)])
  | .update request, sent =>
    (conduct.write sent (.update request), sent ++ [.write (.update request) (conduct.write sent (.update request))])
  | .delete request, sent =>
    (conduct.write sent (.delete request), sent ++ [.write (.delete request) (conduct.write sent (.delete request))])

def client : StatusClient (StateM (List Exchange)) where
  call request := modifyGet (conduct.answer request)

theorem run_read (request : ReadRequest) (sent : List Exchange) : (conduct.client.call (.read request)).run sent =
    (conduct.read sent request, sent ++ [.read request (conduct.read sent request)]) := rfl

theorem run_send (write : SessionWrite) (sent : List Exchange) : (write.send conduct.client).run sent =
    (conduct.write sent write, sent ++ [.write write (conduct.write sent write)]) := by
  cases write <;> rfl

end Conduct

/-! ### Deciding -/

def SessionWrite.validate : SessionWrite → Except Violation Unit
  | update request => request.validate
  | delete request => request.validate

def TransitionRule.write (rule : TransitionRule) (ttls : StageTtls) (header : Header) (method : Method)
    (row : TransitionRow) (record : SessionRecord) : SessionWrite :=
  match rule.action with
  | .update stage fresh =>
    .update { header, caller := method, auth := row.assign.apply record.auth
              lease := if fresh then .none else record.lease, ttl := ttls.ttl stage }
  | .delete => .delete { header }

namespace Verifier

variable {verifier : Verifier} {header : Header} {method : Method} {transport : Transport}
variable {record : SessionRecord} {write : SessionWrite}

/-- The table accepts the method on the record, by the first row that fits in the rule of the method, and this is
the write that the rule asks for. -/
def Asks (verifier : Verifier) (header : Header) (method : Method) (transport : Transport) (record : SessionRecord)
    (write : SessionWrite) : Prop :=
  ∃ rule row, verifier.table.rule? method = some rule ∧
    (rule.rows.find? fun row => row.matchesRecord record && row.admits transport) = some row ∧
    verifier.table.evaluate method record transport = .ok (WorkflowTable.transition rule row record) ∧
    write = rule.write verifier.ttls header method row record

theorem asks_of_evaluate (header : Header) {step : Transition}
    (accepted : verifier.table.evaluate method record transport = .ok step) :
    ∃ write, verifier.Asks header method transport record write := by
  obtain ⟨rule, row, hrule, hrow, rfl⟩ := WorkflowTable.evaluate_eq_ok_iff.1 accepted
  exact ⟨_, rule, row, hrule, hrow, accepted, rfl⟩

theorem Asks.iff_eq (asks : verifier.Asks header method transport record write) (other : SessionWrite) :
    verifier.Asks header method transport record other ↔ other = write := by
  constructor
  · rintro ⟨rule, row, hrule, hrow, _, rfl⟩
    obtain ⟨rule', row', hrule', hrow', _, rfl⟩ := asks
    obtain rfl : rule = rule' := Option.some.inj (hrule.symm.trans hrule')
    obtain rfl : row = row' := Option.some.inj (hrow.symm.trans hrow')
    rfl
  · rintro rfl
    exact asks

theorem Asks.not_refused (asks : verifier.Asks header method transport record write) (rejection : Rejection) :
    verifier.table.evaluate method record transport ≠ .error rejection := by
  obtain ⟨rule, row, _, _, accepted, _⟩ := asks
  rw [accepted]
  nofun

theorem not_asks_of_refused {rejection : Rejection}
    (refused : verifier.table.evaluate method record transport = .error rejection) (write : SessionWrite) :
    ¬ verifier.Asks header method transport record write :=
  fun asks => asks.not_refused rejection refused

theorem Asks.judge (asks : verifier.Asks header method transport record write) :
    (∀ violation, write.validate = .error violation →
      verifier.judge header method transport record = .error (.invalidRequest violation)) ∧
    (write.validate = .ok () → ∃ accepted : AcceptedTransition, accepted.method = method ∧
      verifier.judge header method transport record = .ok { write, accepted }) := by
  obtain ⟨rule, row, hrule, _, accepted, rfl⟩ := asks
  obtain rfl : rule.method = method := by simpa using List.find?_some hrule
  unfold Verifier.judge
  rw [accepted]
  simp only [Verifier.plan, WorkflowTable.transition, TransitionRule.write]
  cases rule.action with
  | update stage fresh =>
    simp only [SessionWrite.validate, UpdateRequest.ofFields_eq]
    refine ⟨fun violation invalid => ?_, fun valid => ?_⟩
    · rw [invalid]
      rfl
    · rw [valid]
      exact ⟨_, rfl, rfl⟩
  | delete =>
    simp only [SessionWrite.validate, DeleteRequest.ofHeader_eq]
    refine ⟨fun violation invalid => ?_, fun valid => ?_⟩
    · rw [invalid]
      rfl
    · rw [valid]
      exact ⟨_, rfl, rfl⟩

/-! ### The trace -/

/-- What a verification reports to the front end, and what it exchanges with a peer. -/
def traced (verifier : Verifier) (conduct : Conduct) (header : Header) (method : Method) (transport : Transport) :
    Except VerifyError AcceptedTransition × List Exchange :=
  (verifier.verify conduct.client header method transport).run []

variable (conduct : Conduct)

theorem traced_invalid {violation : Violation} (invalid : header.validate = .error violation) :
    verifier.traced conduct header method transport = (.error (.invalidRequest violation), []) := by
  have refused : Verifier.opening header = .error (.invalidRequest violation) := by
    rw [Verifier.opening, ReadRequest.ofHeader_eq, invalid]
    rfl
  unfold traced Verifier.verify
  rw [refused]
  rfl

theorem traced_valid (valid : header.validate = .ok ()) :
    verifier.traced conduct header method transport =
      match verifier.decision header method transport (conduct.read [] { header }) with
      | .error failure => (.error failure, [.read { header } (conduct.read [] { header })])
      | .ok plan =>
        let ack := conduct.write [.read { header } (conduct.read [] { header })] plan.write
        (plan.conclude ack, [.read { header } (conduct.read [] { header }), .write plan.write ack]) := by
  unfold traced Verifier.verify
  rw [Verifier.opening_eq_ok_iff.2 ⟨valid, rfl⟩]
  simp only [bind_run, conduct.run_read]
  cases verifier.decision header method transport (conduct.read [] { header }) with
  | error failure => rfl
  | ok plan =>
    simp only [bind_run, conduct.run_send]
    rfl

/-- The four ways of a verification whose header is valid: the read fails, the table refuses, the request that it
asks for is invalid, or that request is sent. -/
theorem traced_cases (valid : header.validate = .ok ()) {answer : Except ClientError ReadResponse}
    (read : conduct.read [] { header } = answer) :
    (∃ failure, answer = .error failure ∧
      verifier.traced conduct header method transport = (.error (.status failure), [.read { header } answer])) ∨
    (∃ response rejection, answer = .ok response ∧
      verifier.table.evaluate method response.record transport = .error rejection ∧
      verifier.traced conduct header method transport =
        (.error (.rejected rejection), [.read { header } answer])) ∨
    (∃ response write violation, answer = .ok response ∧
      verifier.Asks header method transport response.record write ∧ write.validate = .error violation ∧
      verifier.traced conduct header method transport =
        (.error (.invalidRequest violation), [.read { header } answer])) ∨
    ∃ response write accepted, answer = .ok response ∧
      verifier.Asks header method transport response.record write ∧ write.validate = .ok () ∧
      accepted.method = method ∧ verifier.traced conduct header method transport =
        (({ write, accepted } : Plan).conclude (conduct.write [.read { header } answer] write),
          [.read { header } answer, .write write (conduct.write [.read { header } answer] write)]) := by
  have run := @traced_valid verifier header method transport conduct valid
  rw [read] at run
  cases answer with
  | error failure => exact .inl ⟨failure, rfl, run⟩
  | ok response =>
    cases evaluated : verifier.table.evaluate method response.record transport with
    | error rejection =>
      have refused : verifier.judge header method transport response.record = .error (.rejected rejection) := by
        simp only [Verifier.judge, evaluated]
      simp only [Verifier.decision, refused] at run
      exact .inr (.inl ⟨response, rejection, rfl, evaluated, run⟩)
    | ok step =>
      obtain ⟨write, asks⟩ := asks_of_evaluate header evaluated
      obtain ⟨broken, built⟩ := asks.judge
      cases checked : write.validate with
      | error violation =>
        simp only [Verifier.decision, broken violation checked] at run
        exact .inr (.inr (.inl ⟨response, write, violation, rfl, asks, checked, run⟩))
      | ok _ =>
        obtain ⟨accepted, same, planned⟩ := built checked
        simp only [Verifier.decision, planned] at run
        exact .inr (.inr (.inr ⟨response, write, accepted, rfl, asks, checked, same, run⟩))

end Verifier

/-- Whatever a peer answers: with an invalid header, nothing is sent. With a valid one, a read with this header is
sent, and after it at most one message, which is the write that the matched rule asks for. It is sent if and only
if the read succeeds, the table accepts the step and the write is valid. A success is reported if and only if it
is acknowledged as carried out, a rejection if and only if the table refuses, an advance that was not acknowledged
if and only if a write is sent and answered otherwise, and any other failure if and only if nothing was written
and the read failed or the write is invalid. -/
theorem verification_trace (verifier : Verifier) (conduct : Conduct) (header : Header) (method : Method)
    (transport : Transport) :
    (∀ violation, header.validate = .error violation →
      verifier.traced conduct header method transport =
        (.error (.status (.invalidRequest violation.message)), [])) ∧
    ∀ answer, header.validate = .ok () → conduct.read [] { header } = answer →
      let opened := [Exchange.read { header } answer]
      let asks (response : ReadResponse) := verifier.Asks header method transport response.record
      ∃ outcome writes, verifier.traced conduct header method transport = (outcome, opened ++ writes) ∧
        writes.length ≤ 1 ∧
        (∀ exchange, exchange ∈ writes ↔ ∃ response write, answer = .ok response ∧ asks response write ∧
          write.validate = .ok () ∧ exchange = .write write (conduct.write opened write)) ∧
        ((∃ accepted, outcome = .ok accepted) ↔ ∃ response write ack, answer = .ok response ∧
          asks response write ∧ write.validate = .ok () ∧ conduct.write opened write = .ok ack ∧ ack.ok = true) ∧
        (∀ rejection, outcome = .error (.rejected rejection) ↔ ∃ response, answer = .ok response ∧
          verifier.table.evaluate method response.record transport = .error rejection) ∧
        (∀ called source, outcome = .error (.notAcknowledged called source) ↔ called = method ∧ ∃ write,
          (∃ ack, .write write (.ok ack) ∈ writes ∧ ack.ok = false ∧ source = none) ∨
          ∃ failure, .write write (.error failure) ∈ writes ∧ source = some failure) ∧
        ∀ failure, outcome = .error (.status failure) ↔ answer = .error failure ∨
          ∃ response write violation, answer = .ok response ∧ asks response write ∧
            write.validate = .error violation ∧ failure = .invalidRequest violation.message := by
  refine ⟨fun violation invalid => Verifier.traced_invalid conduct invalid, ?_⟩
  intro answer valid read opened asks
  obtain ⟨failure, rfl, run⟩ | ⟨response, rejection, rfl, refused, run⟩ |
      ⟨response, write, violation, rfl, asked, invalid, run⟩ |
      ⟨response, write, accepted, rfl, asked, built, same, run⟩ :=
    verifier.traced_cases conduct valid read
  · refine ⟨_, [], run, Nat.zero_le 1, ?_⟩
    simp
  · refine ⟨_, [], run, Nat.zero_le 1, ?_⟩
    simp [asks, refused, Verifier.not_asks_of_refused refused]
  · refine ⟨_, [], run, Nat.zero_le 1, ?_⟩
    simpa [asks, asked.iff_eq, asked.not_refused, invalid, VerifyError.invalidRequest] using fun _ => eq_comm
  · refine ⟨_, [_], run, Nat.le_refl 1, ?_⟩
    cases acknowledged : conduct.write opened write with
    | error failure =>
      simpa [asks, asked.iff_eq, asked.not_refused, built, acknowledged, Plan.conclude, same] using
        fun _ _ => and_congr eq_comm eq_comm
    | ok ack =>
      cases done : ack.ok with
      | true => simp [asks, asked.iff_eq, asked.not_refused, built, acknowledged, Plan.conclude, done]
      | false =>
        simpa [asks, asked.iff_eq, asked.not_refused, built, acknowledged, Plan.conclude, same, done] using
          fun _ _ => and_congr eq_comm eq_comm

/-- A peer whose record is that of a vote, and which carries out no write. -/
def idlePeer : Conduct where
  read _ request := .ok { header := request.header, record := ⟨some .vote, .mobileId, ⟨7⟩⟩ }
  write _ _ := .ok { ok := false }

theorem idle_peer_traced :
    let header := Header.forSession ⟨"F6", by decide, by decide, by decide⟩
    let record : SessionRecord := ⟨some .vote, .mobileId, ⟨7⟩⟩
    let ttls := StageTtls.standard
    header.validate = .ok () ∧
    ({ table := .verification, ttls } : Verifier).traced idlePeer header .verify .tls =
      (.error (.notAcknowledged .verify none),
        [.read { header } (.ok { header, record }),
          .write (.update { header, caller := .verify, auth := .mobileId, lease := ⟨7⟩, ttl := ttls.verify })
            (.ok { ok := false })]) := by
  intro header record ttls
  have valid : header.validate = .ok () := by decide
  obtain ⟨outcome, writes, run, few, sent, _, _, refused, _⟩ :=
    (verification_trace { table := .verification, ttls } idlePeer header .verify .tls).2 _ valid rfl
  have asks : ({ table := .verification, ttls } : Verifier).Asks header .verify .tls record
      (.update { header, caller := .verify, auth := .mobileId, lease := ⟨7⟩, ttl := ttls.verify }) :=
    ⟨_, _, rfl, rfl, rfl, rfl⟩
  have written := (sent _).2 ⟨{ header, record }, _, rfl, asks, by decide, rfl⟩
  obtain ⟨only, rfl⟩ := List.length_eq_one_iff.1 (Nat.le_antisymm few (List.length_pos_of_mem written))
  have unacknowledged := (refused .verify none).2 ⟨rfl, _, .inl ⟨_, written, rfl, rfl⟩⟩
  rw [run, unacknowledged, ← List.mem_singleton.1 written]
  exact ⟨valid, rfl⟩

end VoterSession
