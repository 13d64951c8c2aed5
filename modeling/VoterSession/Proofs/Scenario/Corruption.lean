import VoterSession.Proofs.Store.Representation
import VoterSession.Proofs.Wire.Boundary
import VoterSession.Proofs.Wire.Seam
set_option autoImplicit false

/-!
A session under whose key the store holds a value that is no record. Everyone who asks for it is told so, nobody
takes it for a session, and it can be removed. Main statement: `corrupt_record_contained`.
-/
namespace VoterSession

def StatusCall.endpoint {α : Type} : StatusCall α → Endpoint
  | .read _ => .read
  | .update _ => .update
  | .delete _ => .delete

/-- The client, with a note of each call that is made through it. -/
def StatusClient.noting {m : Type → Type} [Monad m] (client : StatusClient m) :
    StatusClient (StateT (List Endpoint) m) where
  call request := fun noted => do return (← client.call request, noted ++ [request.endpoint])

theorem RecordText.exists_reason {raw : Bytes} (corrupt : ∀ caller auth, raw ≠ encode caller auth) :
    ∃ reason, decode raw = .error reason := by
  cases decoded : decode raw with
  | error reason => exact ⟨reason, rfl⟩
  | ok record => exact absurd (decode_eq_ok_iff.1 decoded) (corrupt record.1 record.2)

theorem Sessions.record_of_corrupt {key : String} {stored : StoredValue} {reason : CorruptReason}
    (corrupt : RecordText.decode stored.value = .error reason) :
    record key (some stored) = .error (.corrupt key reason) := by
  rw [record, corrupt]

namespace Scenario

open Timed Wire

variable {α : Type}

/-! ### An operation without a fault -/

def afterAttempt (start : Moment World) (store : LeaseStore) : Moment World :=
  { start with state := { start.state with store, attempts := start.state.attempts + 1 } }

theorem runFrom_eventful {interleave : Step → Timed World Unit} (op : StoreOp α) {start : Moment World}
    (faultless : start.state.events = []) : ((World.eventful interleave).call op).runFrom start =
      (.ok (start.state.store.step start.now op).1, afterAttempt start (start.state.store.step start.now op).2) := by
  have next : World.nextEvent.runFrom start = (.ok (.fault .plain), afterAttempt start start.state.store) := by
    obtain ⟨now, seen, deadline, ⟨store, serviceNow, events, attempts, nested⟩⟩ := start
    obtain rfl : events = [] := faultless
    rfl
  simp only [World.eventful, runFrom_bind, next]
  rfl

/-- A deadline is not missed by a computation that answers under any. -/
theorem runFrom_within_answered {computation : Timed World α} {answer : α} {start stop : Moment World}
    (answered : ∀ deadline, computation.runFrom { start with deadline } = (.ok answer, { stop with deadline }))
    (millis : Nat) : (within millis computation).runFrom start =
      (.ok (some answer), { stop with deadline := start.deadline }) := by
  rw [within, runFrom_ofStep]
  simp only [answered]

theorem runFrom_attempts_answered {policy : RetryPolicy} {attempt : Timed World (Except StoreError α)}
    {result : α} {start stop : Moment World}
    (answered : ∀ deadline, attempt.runFrom { start with deadline } = (.ok (.ok result), { stop with deadline }))
    (left : Nat) : (policy.attempts Timed.timing attempt left).runFrom start =
      (.ok (.ok result), { stop with deadline := start.deadline }) := by
  have once : (policy.once Timed.timing attempt).runFrom start =
      (.ok (.ok result), { stop with deadline := start.deadline }) := by
    have inTime := runFrom_within_answered answered policy.opTimeout
    simp only [RetryPolicy.once, Timed.timing, runFrom_bind, inTime, runFrom_pure]
  cases left with
  | zero => exact once
  | succ left => simp only [RetryPolicy.attempts, runFrom_bind, once, runFrom_pure]

section

variable (setup : Setup) {start : Moment World}

theorem runFrom_store {op : StoreOp α} {result : α} {store : LeaseStore} (faultless : start.state.events = [])
    (answered : start.state.store.step start.now op = (.ok result, store)) :
    (setup.service.store.call op).runFrom start = (.ok (.ok result), afterAttempt start store) := by
  have direct (deadline : Option Nat) : ((World.eventful fun _ => pure ()).call op).runFrom { start with deadline } =
      (.ok (.ok result), { afterAttempt start store with deadline }) := by
    have run := @runFrom_eventful α (fun _ => pure ()) op { start with deadline } faultless
    simp only [answered] at run
    exact run
  simp only [Setup.service, Setup.stack]
  cases setup.policy with
  | none => exact direct start.deadline
  | some policy => exact runFrom_attempts_answered direct policy.maxRetries

theorem runFrom_serve {call : StatusCall α} (opened : setup.window.contains start.state.serviceNow = true)
    (valid : call.validate = .ok ()) :
    (setup.service.serve call).runFrom start = (setup.service.perform call).runFrom start := by
  have clock : setup.service.clock.runFrom start = (.ok start.state.serviceNow, start) := rfl
  have window : setup.service.window = setup.window := rfl
  simp only [StatusService.serve, runFrom_bind, clock, window, opened, valid, if_true]

theorem runFrom_serve_read {header : Header} (sound : start.state.store.Sound) (faultless : start.state.events = [])
    (opened : setup.window.contains start.state.serviceNow = true) (valid : header.validate = .ok ()) :
    (setup.service.serve (.read { header })).runFrom start =
      (.ok (match Sessions.record (Sessions.key header.sessionId)
          ((start.state.store.seen start.now (Sessions.key header.sessionId)).map Holding.stored) with
        | .ok record => .ok { header, record }
        | .error source => .error (.repo source)), afterAttempt start (start.state.store.purge start.now)) := by
  have found := runFrom_store setup faultless (sound.step_get start.now (Sessions.key header.sessionId))
  have passes : (StatusCall.read { header }).validate = .ok () := ReadRequest.validate_of_header valid
  rw [runFrom_serve setup opened passes]
  simp only [StatusService.perform, Sessions.read, runFrom_bind, found, runFrom_pure]
  cases Sessions.record (Sessions.key header.sessionId)
    ((start.state.store.seen start.now (Sessions.key header.sessionId)).map Holding.stored) with
  | error source => rfl
  | ok record =>
    simp only [ReadResponse.ofRecord_of_header valid, runFrom_pure]
    rfl

theorem runFrom_serve_delete {header : Header} (sound : start.state.store.Sound)
    (faultless : start.state.events = []) (opened : setup.window.contains start.state.serviceNow = true)
    (valid : header.validate = .ok ()) :
    ∃ store, (setup.service.serve (.delete { header })).runFrom start = (.ok (.ok .done), afterAttempt start store) ∧
      store.Sound ∧ ∀ key, store.seen start.now key =
        if key = Sessions.key header.sessionId then none else start.state.store.seen start.now key := by
  obtain ⟨store, answered, kept, _, seen⟩ := sound.step_delete start.now (Sessions.key header.sessionId)
  have removed := runFrom_store setup faultless answered
  have passes : (StatusCall.delete { header }).validate = .ok () := DeleteRequest.validate_of_header valid
  refine ⟨store, ?_, kept, seen⟩
  rw [runFrom_serve setup opened passes]
  simp only [StatusService.perform, Sessions.delete, runFrom_bind, removed, runFrom_pure]

end

/-! ### A read that fails -/

section

variable {client : StatusClient (Timed World)} {header : Header} {failure : ClientError} {start stop : Moment World}

theorem runFrom_verify_of_error (valid : header.validate = .ok ())
    (told : (client.call (.read { header })).runFrom start = (.ok (.error failure), stop)) (verifier : Verifier)
    (method : Method) (transport : Transport) :
    (verifier.verify client header method transport).runFrom start = (.ok (.error (.status failure)), stop) := by
  rw [verify_eq, Verifier.opening_eq_ok_iff.2 ⟨valid, rfl⟩]
  simp only [runFrom_bind, told, Verifier.decision, finish, runFrom_pure]

theorem runFrom_noting_of_error (valid : header.validate = .ok ())
    (told : (client.call (.read { header })).runFrom start = (.ok (.error failure), stop)) (verifier : Verifier)
    (method : Method) (transport : Transport) :
    ((verifier.verify client.noting header method transport).run []).runFrom start =
      (.ok (.error (.status failure), [.read]), stop) := by
  have noted : (StateT.run (client.noting.call (.read { header })) []).runFrom start =
      (.ok (.error failure, [.read]), stop) := by
    change (client.call (.read { header }) >>= fun answer => pure (answer, [Endpoint.read])).runFrom start = _
    rw [runFrom_bind, told]
    rfl
  unfold Verifier.verify
  rw [Verifier.opening_eq_ok_iff.2 ⟨valid, rfl⟩]
  simp only [StateT.run_bind, runFrom_bind, noted, Verifier.decision, StateT.run_pure, runFrom_pure]

end

/-! ### A value that is no record -/

section

variable (setup : Setup) {start : Moment World} {header : Header}

theorem runFrom_client_of_corrupt {client : StatusClient (Timed World)} {key : String} {reason : CorruptReason}
    {stop : Moment World} (valid : header.validate = .ok ())
    (read : (setup.service.serve (.read { header })).runFrom start =
      (.ok (.error (.repo (.corrupt key reason))), stop))
    (seam : client = setup.service.client ∨ client = (Channel.toService setup.service).client) :
    (client.call (.read { header })).runFrom start =
      (.ok (.error (.corruptRecord (RepoError.corrupt key reason).message)), stop) := by
  obtain rfl | rfl := seam
  · rw [client_call_eq_map, runFrom_map, read]
    rfl
  · have built : (StatusCall.read { header }).Built := ReadRequest.ofHeader_eq_ok_iff.2 ⟨valid, rfl⟩
    rw [Channel.client_toService_call _ built, runFrom_map, read]
    rfl

theorem runFrom_serve_read_absent (sound : start.state.store.Sound) (faultless : start.state.events = [])
    (opened : setup.window.contains start.state.serviceNow = true) (valid : header.validate = .ok ())
    (absent : start.state.store.seen start.now (Sessions.key header.sessionId) = none) :
    (setup.service.serve (.read { header })).runFrom start =
      (.ok (.ok { header, record := .empty }), afterAttempt start (start.state.store.purge start.now)) := by
  rw [runFrom_serve_read setup sound faultless opened valid, absent]
  rfl

end

/-- A value that is no record, on a live lease under the key of a session, in a store that can be reached: whoever
reads the session is told that its record is corrupt, in the same process and over a channel, and a verification
reports that and sends no write, by any table. The value and its lease stay as they are, until a removal leaves the
session without a record. -/
theorem corrupt_record_contained (setup : Setup) {since : Nat} {start : Moment World} {header : Header}
    {holding : Holding} (reached : LeaseStore.Reached since start.state.store) (faultless : start.state.events = [])
    (opened : setup.window.contains start.state.serviceNow = true) (valid : header.validate = .ok ())
    (stored : start.state.store.seen start.now (Sessions.key header.sessionId) = some holding)
    (corrupt : ∀ caller auth, holding.value ≠ RecordText.encode caller auth) :
    ∃ reason stop, RecordText.decode holding.value = .error reason ∧
      let why := RepoError.corrupt ("/session/" ++ header.sessionId.text) reason
      (setup.service.serve (.read { header })).runFrom start = (.ok (.error (.repo why)), stop) ∧
      (handle setup.service (.read (.ofReadRequest { header }))).runFrom start =
        (.ok (.error ⟨.dataLoss, why.message⟩), stop) ∧
      (∀ client, client = setup.service.client ∨ client = (Channel.toService setup.service).client →
        (client.call (.read { header })).runFrom start = (.ok (.error (.corruptRecord why.message)), stop) ∧
        ∀ (verifier : Verifier) (method : Method) (transport : Transport),
          let failure := VerifyError.status (.corruptRecord why.message)
          failure.clientFacing.name = "INTERNAL_SERVER_ERROR" ∧
          (verifier.verify client header method transport).runFrom start = (.ok (.error failure), stop) ∧
          ((verifier.verify client.noting header method transport).run []).runFrom start =
            (.ok (.error failure, [.read]), stop)) ∧
      stop.now = start.now ∧ stop.state.attempts = start.state.attempts + 1 ∧
      stop.state.store.seen stop.now (Sessions.key header.sessionId) = some holding ∧
      ∃ removed later,
        (setup.service.serve (.delete { header })).runFrom start = (.ok (.ok .done), removed) ∧
        (handle setup.service (.delete (.ofDeleteRequest { header }))).runFrom start =
          (.ok (.ok { ok := true }), removed) ∧
        removed.now = start.now ∧ removed.state.store.seen removed.now (Sessions.key header.sessionId) = none ∧
        (setup.service.serve (.read { header })).runFrom removed =
          (.ok (.ok { header, record := .empty }), later) := by
  have sound := reached.upheld.toSound
  obtain ⟨reason, decoded⟩ := RecordText.exists_reason corrupt
  let key := Sessions.key header.sessionId
  let stop := afterAttempt start (start.state.store.purge start.now)
  have readArrives : (SessionMessage.ofReadRequest { header }).toReadRequest = .ok { header } :=
    SessionMessage.toReadRequest_ofReadRequest (ReadRequest.ofHeader_eq_ok_iff.2 ⟨valid, rfl⟩)
  have deleteArrives : (SessionMessage.ofDeleteRequest { header }).toDeleteRequest = .ok { header } :=
    SessionMessage.toDeleteRequest_ofDeleteRequest (DeleteRequest.ofHeader_eq_ok_iff.2 ⟨valid, rfl⟩)
  have read : (setup.service.serve (.read { header })).runFrom start =
      (.ok (.error (.repo (.corrupt key reason))), stop) := by
    rw [runFrom_serve_read setup sound faultless opened valid, stored, Option.map_some,
      Sessions.record_of_corrupt decoded]
  obtain ⟨store, deleted, kept, seen⟩ := runFrom_serve_delete setup sound faultless opened valid
  refine ⟨reason, stop, decoded, read, ?_, ?_, rfl, rfl, ?_, afterAttempt start store, ?_⟩
  · rw [handle_read setup.service readArrives, runFrom_map, read]
    rfl
  · intro client seam
    have told := runFrom_client_of_corrupt setup valid read seam
    exact ⟨told, fun verifier method transport => ⟨rfl, runFrom_verify_of_error valid told verifier method transport,
      runFrom_noting_of_error valid told verifier method transport⟩⟩
  · exact (sound.seen_now_purge start.now key).trans stored
  · have absent : store.seen start.now key = none := by
      rw [seen, if_pos rfl]
    refine ⟨_, deleted, ?_, rfl, absent, runFrom_serve_read_absent setup kept faultless opened valid absent⟩
    rw [handle_delete setup.service deleteArrives, runFrom_map, deleted]
    rfl

/-! ### A session that was tampered with -/

def tampering : StoreAction := .put "/session/F6" (Bytes.ofText "AAAA") .none StageTtls.standard.choice

def tampered : Moment World where
  now := 100
  state := { store := (LeaseStore.empty.perform 10 tampering).2, serviceNow := 50 }

theorem tampered_session_contained : LeaseStore.Reached 10 tampered.state.store ∧
    tampered.state.events = [] ∧ guarded.window.contains tampered.state.serviceNow = true ∧
    voter.validate = .ok () ∧
    tampered.state.store.seen 100 "/session/F6" = some ⟨Bytes.ofText "AAAA", ⟨1⟩, 900000, 900010⟩ ∧
    (∀ caller auth, Bytes.ofText "AAAA" ≠ RecordText.encode caller auth) ∧
    ∃ stop, (voting.verify (Channel.toService guarded.service).client voter .vote .tls).runFrom tampered =
        (.ok (.error (.status (.corruptRecord
          "corrupt session record at /session/F6: expected 2 fields, got 1"))), stop) ∧
      stop.state.store.seen 100 "/session/F6" = some ⟨Bytes.ofText "AAAA", ⟨1⟩, 900000, 900010⟩ := by
  have reached : LeaseStore.Reached 10 tampered.state.store := .act .start (Nat.zero_le 10) tampering
  have stored : tampered.state.store.seen tampered.now (Sessions.key voter.sessionId) =
      some ⟨Bytes.ofText "AAAA", ⟨1⟩, 900000, 900010⟩ := by decide +kernel
  have refused : RecordText.decode (Bytes.ofText "AAAA") = .error (.fieldCount 1) := rfl
  have corrupt (caller : Option Method) (auth : AuthTag) : Bytes.ofText "AAAA" ≠ RecordText.encode caller auth := by
    intro same
    have read := (congrArg RecordText.decode same).trans (RecordText.decode_encode caller auth)
    cases refused.symm.trans read
  obtain ⟨reason, stop, decoded, _, _, seams, now, _, kept, _⟩ :=
    corrupt_record_contained guarded reached rfl rfl rfl stored corrupt
  obtain rfl : CorruptReason.fieldCount 1 = reason := Except.error.inj (refused.symm.trans decoded)
  obtain ⟨_, verdicts⟩ := seams _ (.inr rfl)
  rw [now] at kept
  exact ⟨reached, rfl, rfl, rfl, stored, corrupt, stop, (verdicts voting .vote .tls).2.1, kept⟩

end Scenario

end VoterSession
