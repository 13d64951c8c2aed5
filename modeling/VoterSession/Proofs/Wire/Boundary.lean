import VoterSession.Proofs.Scenario.AllOrNothing
import VoterSession.Proofs.Wire.Canonical
set_option autoImplicit false

/-!
What a service lets in from its remote side. A message with a field that breaks its rule is refused at once; any
other asks the store for one thing, if the service is open. Main statements: `handle_refused`, `handle_admitted`
and `boundary_exact`.
-/
namespace VoterSession

namespace Wire

/-! ### The rules for messages -/

structure HeaderMessage.Admitted (message : HeaderMessage) : Prop where
  length : 1 ≤ message.sessionId.toList.length ∧ message.sessionId.toList.length ≤ 128
  characters : ∀ c ∈ message.sessionId.toList,
    'A' ≤ c ∧ c ≤ 'Z' ∨ 'a' ≤ c ∧ c ≤ 'z' ∨ '0' ≤ c ∧ c ≤ '9' ∨ c = '-' ∨ c = '_'
  os : Header.Legible 256 message.os
  authMethod : Header.Legible 64 message.authMethod
  authToken : message.authToken.length ≤ 16384
  dataToken : message.dataToken.length ≤ 16384

def SessionMessage.Admitted (message : SessionMessage) : Prop :=
  ∃ header, message.header = some header ∧ header.Admitted

structure UpdateMessage.Admitted (message : UpdateMessage) : Prop where
  header : ∃ header, message.header = some header ∧ header.Admitted
  caller : ∃ method : Method, message.caller = method.name
  auth : message.auth ∈ ["id", "mid", "sid", "wid"]
  lease : (∀ c ∈ message.lease.toList, Text.isBlank c = true) ∨ ∃ core n,
    Text.Padded core message.lease.toList ∧ Text.Decimal.Integer core n ∧ 0 ≤ n ∧ n ≤ 9223372036854775807
  ttl : ∃ core n, Text.Padded core message.ttl.toList ∧ Text.Decimal.Natural core n ∧ 1 ≤ n ∧ n ≤ 86400

def WireCall.Admitted {α : Type} : WireCall α → Prop
  | .read message => message.Admitted
  | .update message => message.Admitted
  | .delete message => message.Admitted

theorem HeaderMessage.admitted_iff {message : HeaderMessage} :
    message.Admitted ↔ ∃ header, message = ofHeader header ∧ header.validate = .ok () := by
  constructor
  · intro admitted
    let header : Header :=
      { sessionId := ⟨message.sessionId, SessionId.valid_iff.2 ⟨admitted.length, admitted.characters⟩⟩
        os := message.os, authMethod := message.authMethod
        authToken := message.authToken, dataToken := message.dataToken }
    exact ⟨header, rfl, Header.validate_eq_ok_iff.2
      ⟨admitted.os, admitted.authMethod, admitted.authToken, admitted.dataToken⟩⟩
  · rintro ⟨header, rfl, valid⟩
    obtain ⟨os, authMethod, authToken, dataToken⟩ := Header.validate_eq_ok_iff.1 valid
    obtain ⟨length, characters⟩ := SessionId.valid_iff.1 header.sessionId.valid
    exact ⟨length, characters, os, authMethod, authToken, dataToken⟩

theorem SessionMessage.admitted_iff_header {message : SessionMessage} : message.Admitted ↔
    ∃ header, message.header = some (.ofHeader header) ∧ header.validate = .ok () := by
  constructor
  · rintro ⟨parts, named, admitted⟩
    obtain ⟨header, rfl, valid⟩ := HeaderMessage.admitted_iff.1 admitted
    exact ⟨header, named, valid⟩
  · rintro ⟨header, named, valid⟩
    exact ⟨_, named, HeaderMessage.admitted_iff.2 ⟨header, rfl, valid⟩⟩

theorem SessionMessage.admitted_iff_read {message : SessionMessage} :
    message.Admitted ↔ ∃ request, message.toReadRequest = .ok request := by
  rw [admitted_iff_header]
  constructor
  · rintro ⟨header, named, valid⟩
    refine ⟨{ header }, toReadRequest_eq_ok_iff.2 ⟨?_, ReadRequest.ofHeader_eq_ok_iff.2 ⟨valid, rfl⟩⟩⟩
    rw [ofReadRequest, ← named]
  · rintro ⟨request, read⟩
    obtain ⟨rfl, built⟩ := toReadRequest_eq_ok_iff.1 read
    exact ⟨request.header, rfl, (ReadRequest.ofHeader_eq_ok_iff.1 built).1⟩

theorem SessionMessage.admitted_iff_delete {message : SessionMessage} :
    message.Admitted ↔ ∃ request, message.toDeleteRequest = .ok request := by
  rw [admitted_iff_header]
  constructor
  · rintro ⟨header, named, valid⟩
    refine ⟨{ header }, toDeleteRequest_eq_ok_iff.2 ⟨?_, DeleteRequest.ofHeader_eq_ok_iff.2 ⟨valid, rfl⟩⟩⟩
    rw [ofDeleteRequest, ← named]
  · rintro ⟨request, read⟩
    obtain ⟨rfl, built⟩ := toDeleteRequest_eq_ok_iff.1 read
    exact ⟨request.header, rfl, (DeleteRequest.ofHeader_eq_ok_iff.1 built).1⟩

theorem resolved_name_iff {text : String} :
    text ∈ ["id", "mid", "sid", "wid"] ↔ ∃ tag : AuthTag, text = tag.name ∧ tag.isResolved = true := by
  constructor
  · intro member
    simp only [List.mem_cons, List.not_mem_nil, or_false] at member
    obtain rfl | rfl | rfl | rfl := member
    · exact ⟨.idCard, rfl, rfl⟩
    · exact ⟨.mobileId, rfl, rfl⟩
    · exact ⟨.smartId, rfl, rfl⟩
    · exact ⟨.webEid, rfl, rfl⟩
  · rintro ⟨tag, rfl, resolved⟩
    cases tag with
    | unresolved => cases resolved
    | _ => decide

theorem spelled_lease_iff {text : String} : (∃ lease, LeaseId.Spelled text lease) ↔
    (∀ c ∈ text.toList, Text.isBlank c = true) ∨ ∃ core n,
      Text.Padded core text.toList ∧ Text.Decimal.Integer core n ∧ 0 ≤ n ∧ n ≤ 9223372036854775807 := by
  constructor
  · rintro ⟨lease, spelled⟩
    cases spelled with
    | blank blank => exact .inl blank
    | number padded integer counted bounded => exact .inr ⟨_, _, padded, integer, counted, bounded⟩
  · rintro (blank | ⟨core, n, padded, integer, counted, bounded⟩)
    · exact ⟨.none, .blank blank⟩
    · exact ⟨⟨n⟩, .number padded integer counted bounded⟩

theorem spelled_ttl_iff {text : String} : (∃ ttl, Ttl.Spelled text ttl) ↔ ∃ core n,
    Text.Padded core text.toList ∧ Text.Decimal.Natural core n ∧ 1 ≤ n ∧ n ≤ 86400 := by
  constructor
  · rintro ⟨ttl, core, padded, natural⟩
    exact ⟨core, ttl.seconds, padded, natural, ttl.positive, ttl.bounded⟩
  · rintro ⟨core, n, padded, natural, positive, bounded⟩
    exact ⟨⟨n, positive, bounded⟩, core, padded, natural⟩

theorem UpdateMessage.admitted_iff {message : UpdateMessage} :
    message.Admitted ↔ ∃ request, message.toRequest = .ok request := by
  constructor
  · rintro ⟨⟨parts, named, admitted⟩, ⟨method, caller⟩, auth, lease, ttl⟩
    obtain ⟨header, rfl, valid⟩ := HeaderMessage.admitted_iff.1 admitted
    obtain ⟨tag, tagged, resolved⟩ := resolved_name_iff.1 auth
    obtain ⟨lease, spelledLease⟩ := spelled_lease_iff.2 lease
    obtain ⟨ttl, spelledTtl⟩ := spelled_ttl_iff.2 ttl
    let request : UpdateRequest := { header, caller := method, auth := tag, lease, ttl }
    refine ⟨request, toRequest_eq_ok_iff.2 ⟨?_, spelledLease, spelledTtl, ?_⟩⟩
    · rw [ofRequest, ← named, ← caller, ← tagged]
    · exact UpdateRequest.ofFields_eq_ok_iff.2 ⟨⟨valid, spelledLease.counted, resolved⟩, rfl⟩
  · rintro ⟨request, read⟩
    obtain ⟨same, lease, ttl, built⟩ := toRequest_eq_ok_iff.1 read
    obtain ⟨valid, _, resolved⟩ := (UpdateRequest.ofFields_eq_ok_iff.1 built).1
    exact {
      header := ⟨_, by rw [same]; rfl, HeaderMessage.admitted_iff.2 ⟨request.header, rfl, valid⟩⟩
      caller := ⟨request.caller, by rw [same]; rfl⟩
      auth := resolved_name_iff.2 ⟨request.auth, by rw [same]; rfl, resolved⟩
      lease := spelled_lease_iff.1 ⟨_, lease⟩
      ttl := spelled_ttl_iff.1 ⟨_, ttl⟩ }

/-! ### One operation -/

def HeaderMessage.key (header : HeaderMessage) : String := "/session/" ++ header.sessionId

def HeaderMessage.recordReply (header : HeaderMessage) :
    Except StoreError (Option StoredValue) → Except Status RecordMessage
  | .ok stored =>
    match Sessions.record header.key stored with
    | .ok record => .ok { header := some header, caller := record.callerName, auth := record.auth.name
                          lease := record.lease.text }
    | .error source => .error (.ofService (.repo source))
  | .error failure => .error (.ofService (.repo (.store header.key failure)))

def HeaderMessage.ackReply (header : HeaderMessage) : Except StoreError Unit → Except Status AckMessage
  | .ok () => .ok { ok := true }
  | .error failure => .error (.ofService (.repo (.store header.key failure)))

/-- The one operation that a call asks of the store, and how it is answered, given what the store answered. -/
inductive WireCall.Operation :
    {α β : Type} → WireCall α → StoreOp β → (Except StoreError β → Except Status α) → Prop where
  | read {message : SessionMessage} {header : HeaderMessage} (named : message.header = some header) :
    Operation (.read message) (.get header.key) header.recordReply
  | update {message : UpdateMessage} {header : HeaderMessage} {method : Method} {tag : AuthTag}
    {lease : LeaseId} {ttl : Ttl} (named : message.header = some header) (caller : message.caller = method.name)
    (auth : message.auth = tag.name) (spelledLease : LeaseId.Spelled message.lease lease)
    (spelledTtl : Ttl.Spelled message.ttl ttl) :
    Operation (.update message) (.put header.key (RecordText.encode (some method) tag) lease ttl) header.ackReply
  | delete {message : SessionMessage} {header : HeaderMessage} (named : message.header = some header) :
    Operation (.delete message) (.delete header.key) header.ackReply

section

variable {m : Type → Type} [Monad m] [LawfulMonad m]

theorem handle_read (service : StatusService m) {message : SessionMessage} {request : ReadRequest}
    (read : message.toReadRequest = .ok request) : handle service (.read message) =
      (fun answer => (answer.mapError Status.ofService).map RecordMessage.ofResponse) <$>
        service.serve (.read request) := by
  simp only [handle, read, map_eq_pure_bind]

theorem handle_update (service : StatusService m) {message : UpdateMessage} {request : UpdateRequest}
    (read : message.toRequest = .ok request) : handle service (.update message) =
      (fun answer => (answer.mapError Status.ofService).map AckMessage.ofAck) <$>
        service.serve (.update request) := by
  simp only [handle, read, map_eq_pure_bind]

theorem handle_delete (service : StatusService m) {message : SessionMessage} {request : DeleteRequest}
    (read : message.toDeleteRequest = .ok request) : handle service (.delete message) =
      (fun answer => (answer.mapError Status.ofService).map AckMessage.ofAck) <$>
        service.serve (.delete request) := by
  simp only [handle, read, map_eq_pure_bind]

theorem map_serve {α γ : Type} (service : StatusService m) {call : StatusCall α} (valid : call.validate = .ok ())
    (f : Except ServiceError α → γ) :
    f <$> service.serve call = service.clock >>= fun now =>
      if service.window.contains now then f <$> service.perform call
      else pure (f (.error (.outsideWindow now))) := by
  simp only [StatusService.serve, valid, map_bind]
  congr 1
  funext now
  split
  · rfl
  · exact map_pure f _

theorem perform_read (service : StatusService m) {header : Header} (valid : header.validate = .ok ()) :
    (fun answer => (answer.mapError Status.ofService).map RecordMessage.ofResponse) <$>
        service.perform (.read { header }) =
      (HeaderMessage.ofHeader header).recordReply <$>
        service.store.call (.get (Sessions.key header.sessionId)) := by
  simp only [StatusService.perform, Sessions.read, map_eq_pure_bind, bind_assoc]
  congr 1
  funext outcome
  cases outcome with
  | error failure =>
    simp only [pure_bind]
    rfl
  | ok stored =>
    have key : (HeaderMessage.ofHeader header).key = Sessions.key header.sessionId := rfl
    simp only [pure_bind, HeaderMessage.recordReply, key]
    cases Sessions.record (Sessions.key header.sessionId) stored with
    | error source =>
      simp only [pure_bind]
      rfl
    | ok record =>
      simp only [pure_bind, ReadResponse.ofRecord_of_header valid]
      rfl

theorem perform_update (service : StatusService m) (request : UpdateRequest) :
    (fun answer => (answer.mapError Status.ofService).map AckMessage.ofAck) <$> service.perform (.update request) =
      (HeaderMessage.ofHeader request.header).ackReply <$>
        service.store.call (.put (Sessions.key request.header.sessionId)
          (RecordText.encode (some request.caller) request.auth) request.lease request.ttl) := by
  simp only [StatusService.perform, Sessions.update, map_eq_pure_bind, bind_assoc]
  congr 1
  funext outcome
  cases outcome <;> simp only [pure_bind] <;> rfl

theorem perform_delete (service : StatusService m) (request : DeleteRequest) :
    (fun answer => (answer.mapError Status.ofService).map AckMessage.ofAck) <$> service.perform (.delete request) =
      (HeaderMessage.ofHeader request.header).ackReply <$>
        service.store.call (.delete (Sessions.key request.header.sessionId)) := by
  simp only [StatusService.perform, Sessions.delete, map_eq_pure_bind, bind_assoc]
  congr 1
  funext outcome
  cases outcome <;> simp only [pure_bind] <;> rfl

end

theorem handle_refused {α : Type} {call : WireCall α} (refused : ¬ call.Admitted) :
    ∃ failure : ConversionError, ∀ {m : Type → Type} [Monad m] (service : StatusService m),
      handle service call = pure (.error failure.status) := by
  cases call with
  | read message =>
    cases read : message.toReadRequest with
    | ok request => exact absurd (SessionMessage.admitted_iff_read.2 ⟨request, read⟩) refused
    | error failure => exact ⟨failure, fun service => by simp only [handle, read]⟩
  | update message =>
    cases read : message.toRequest with
    | ok request => exact absurd (UpdateMessage.admitted_iff.2 ⟨request, read⟩) refused
    | error failure => exact ⟨failure, fun service => by simp only [handle, read]⟩
  | delete message =>
    cases read : message.toDeleteRequest with
    | ok request => exact absurd (SessionMessage.admitted_iff_delete.2 ⟨request, read⟩) refused
    | error failure => exact ⟨failure, fun service => by simp only [handle, read]⟩

/-- Any other message looks at the clock of its service and, if the service is open, asks its store once. -/
theorem handle_admitted {α : Type} {call : WireCall α} (admitted : call.Admitted) :
    ∃ (β : Type) (op : StoreOp β) (reply : Except StoreError β → Except Status α), call.Operation op reply ∧
      ∀ {m : Type → Type} [Monad m] [LawfulMonad m] (service : StatusService m),
        handle service call = service.clock >>= fun now =>
          if service.window.contains now then reply <$> service.store.call op
          else pure (.error (.ofService (.outsideWindow now))) := by
  cases call with
  | read message =>
    obtain ⟨request, read⟩ := SessionMessage.admitted_iff_read.1 admitted
    obtain ⟨same, built⟩ := SessionMessage.toReadRequest_eq_ok_iff.1 read
    obtain ⟨valid, named⟩ := ReadRequest.ofHeader_eq_ok_iff.1 built
    have header : message.header = some (.ofHeader request.header) := congrArg SessionMessage.header same
    have passes : (StatusCall.read { header := request.header }).validate = .ok () :=
      ReadRequest.validate_of_header valid
    refine ⟨_, _, _, .read header, fun service => ?_⟩
    rw [handle_read service read, named, map_serve service passes, perform_read service valid]
    rfl
  | update message =>
    obtain ⟨request, read⟩ := UpdateMessage.admitted_iff.1 admitted
    obtain ⟨same, lease, ttl, _⟩ := UpdateMessage.toRequest_eq_ok_iff.1 read
    have header : message.header = some (.ofHeader request.header) := congrArg UpdateMessage.header same
    have caller : message.caller = request.caller.name := congrArg UpdateMessage.caller same
    have auth : message.auth = request.auth.name := congrArg UpdateMessage.auth same
    have passes : (StatusCall.update request).validate = .ok () := (UpdateMessage.normalised read).1
    refine ⟨_, _, _, .update header caller auth lease ttl, fun service => ?_⟩
    rw [handle_update service read, map_serve service passes, perform_update]
    rfl
  | delete message =>
    obtain ⟨request, read⟩ := SessionMessage.admitted_iff_delete.1 admitted
    have header : message.header = some (.ofHeader request.header) :=
      congrArg SessionMessage.header (SessionMessage.toDeleteRequest_eq_ok_iff.1 read).1
    have passes : (StatusCall.delete request).validate = .ok () := (SessionMessage.delete_normalised read).1
    refine ⟨_, _, _, .delete header, fun service => ?_⟩
    rw [handle_delete service read, map_serve service passes, perform_delete]
    rfl

theorem WireCall.Operation.blameless {α β : Type} {call : WireCall α} {op : StoreOp β}
    {reply : Except StoreError β → Except Status α} (operation : call.Operation op reply)
    {outcome : Except StoreError β} {status : Status} (h : reply outcome = .error status) :
    status.code ≠ .invalidArgument := by
  have repo (source : RepoError) : (Status.ofService (.repo source)).code ≠ .invalidArgument := by
    cases source with
    | corrupt key reason => nofun
    | store key failure => cases failure <;> nofun
  have acknowledged {header : HeaderMessage} {outcome : Except StoreError Unit}
      (h : header.ackReply outcome = .error status) : status.code ≠ .invalidArgument := by
    cases outcome <;> cases h
    exact repo _
  cases operation with
  | @read message header named =>
    cases outcome with
    | error failure =>
      cases h
      exact repo _
    | ok stored =>
      rw [HeaderMessage.recordReply] at h
      cases hrecord : Sessions.record header.key stored <;> rw [hrecord] at h <;> cases h
      exact repo _
  | update => exact acknowledged h
  | delete => exact acknowledged h

end Wire

namespace Scenario

open Timed Bench Wire

/-! ### The log of one operation -/

variable {α : Type}

theorem timely_fault_lasting {σ : Type} {attempt : Timed σ (Except StoreError α)} {lasting : σ → Prop}
    {due : Nat} (kept : Timely (some due) (fun _ => lasting) attempt (fun _ _ => lasting) (fun _ => lasting))
    (fault : Fault) : Timely (some due) (fun _ => lasting) (fault.apply attempt) (fun _ _ => lasting)
      (fun _ => lasting) := by
  have waited (millis : Nat) : Timely (some due) (fun _ => lasting) (Timed.wait millis)
      (fun _ _ => lasting) (fun _ => lasting) :=
    Timely.wait_lasting millis (fun _ _ _ h _ => h) fun _ _ h => h
  cases fault with
  | plain => exact kept
  | hang => exact Timely.hang fun _ _ h _ => h
  | delay millis => exact (waited millis).bind fun _ => kept
  | fail failure => exact Timely.pure fun _ _ h => h
  | loseAnswer text =>
    refine kept.bind fun outcome => ?_
    cases outcome <;> exact Timely.pure fun _ _ h => h
  | answerLate millis => exact kept.bind fun _ => (waited millis).bind fun _ => Timely.pure fun _ _ h => h

variable (policy : RetryPolicy) (schedule : Nat → Fault) (op : StoreOp α)

theorem timely_logged_once (log : List StoreAction) (cut : Nat → Bench → Prop) :
    Timely none (fun _ bench => bench.asked = log) (policy.once Timed.timing ((faulty schedule).call op))
      (fun _ _ bench => bench.asked = log ++ [op.action]) cut := by
  refine timely_once fun time => ?_
  have counted : Timely (some (time + policy.opTimeout)) (fun now bench => now = time ∧ bench.asked = log)
      (ask op) (fun _ _ bench => bench.asked = log ++ [op.action])
      (fun _ bench => bench.asked = log ++ [op.action]) := by
    refine Timely.change fun now bench h => ?_
    change bench.asked ++ [op.action] = log ++ [op.action]
    rw [h.2]
  refine counted.bind fun number => ?_
  have attempted : Timely (some (time + policy.opTimeout)) (fun _ bench => bench.asked = log ++ [op.action])
      (memory op) (fun _ _ bench => bench.asked = log ++ [op.action])
      (fun _ bench => bench.asked = log ++ [op.action]) := Timely.change fun _ _ h => h
  refine (timely_fault_lasting attempted (schedule number)).bind fun outcome => ?_
  have noted : Timely (some (time + policy.opTimeout)) (fun _ bench => bench.asked = log ++ [op.action])
      (answer op outcome) (fun _ _ bench => bench.asked = log ++ [op.action])
      (fun _ bench => bench.asked = log ++ [op.action]) := Timely.change fun _ _ h => h
  exact noted.bind fun _ => Timely.pure fun _ _ h => h

/-- The operation is attempted once and then again no more often than repetitions are left. -/
theorem timely_logged (log : List StoreAction) (left : Nat) (cut : Nat → Bench → Prop) :
    Timely none (fun _ bench => bench.asked = log)
      (policy.attempts Timed.timing ((faulty schedule).call op) left)
      (fun _ _ bench => ∃ count, count ≤ left ∧ bench.asked = log ++ List.replicate (count + 1) op.action) cut := by
  have once := timely_logged_once policy schedule op
  induction left generalizing log with
  | zero => exact (once log cut).mono (fun _ _ h => h) (fun _ _ _ h => ⟨0, Nat.le_refl 0, h⟩) fun _ _ h => h
  | succ left ih =>
    refine timely_attempts_succ (once log cut) (fun _ _ _ _ h => ⟨0, Nat.zero_le _, h⟩) fun failure _ => ?_
    refine (ih (log ++ [op.action])).mono ?_ ?_ fun _ _ h => h
    · rintro now bench ⟨_, _, h⟩
      exact h
    · rintro outcome now bench ⟨count, allowed, h⟩
      refine ⟨count + 1, Nat.succ_le_succ allowed, ?_⟩
      rw [h, List.append_assoc, List.singleton_append, ← List.replicate_succ]

/-! ### What a service lets in -/

section

variable (window : ServiceWindow) (reading : Nat → Bench → Nat) {call : WireCall α} {start : Moment Bench}

theorem run_refused (refused : ¬ call.Admitted) : ∃ failure : ConversionError,
    (handle (faultyService policy schedule window reading) call).runFrom start =
      (.ok (.error failure.status), start) := by
  obtain ⟨failure, same⟩ := handle_refused refused
  refine ⟨failure, ?_⟩
  rw [same]
  rfl

theorem runFrom_admitted (admitted : call.Admitted) (start : Moment Bench) :
    ∃ (β : Type) (op : StoreOp β) (told : Except StoreError β → Except Status α), call.Operation op told ∧
      (handle (faultyService policy schedule window reading) call).runFrom start =
        if window.contains (reading start.now start.state) then
          (told <$> (policy.guard Timed.timing (faulty schedule)).call op).runFrom start
        else (.ok (.error (.ofService (.outsideWindow (reading start.now start.state)))), start) := by
  obtain ⟨β, op, told, operation, same⟩ := handle_admitted admitted
  have clock : (faultyService policy schedule window reading).clock.runFrom start =
      (.ok (reading start.now start.state), start) := rfl
  refine ⟨β, op, told, operation, ?_⟩
  rw [same, runFrom_bind, clock]
  change ((if window.contains (reading start.now start.state) then _ else _ : Timed Bench _).runFrom start) = _
  split <;> rfl

theorem run_closed (admitted : call.Admitted) (closed : window.contains (reading start.now start.state) = false) :
    (handle (faultyService policy schedule window reading) call).runFrom start =
      (.ok (.error (.ofService (.outsideWindow (reading start.now start.state)))), start) := by
  obtain ⟨_, _, _, _, run⟩ := runFrom_admitted policy schedule window reading admitted start
  rw [run, closed]
  rfl

theorem run_opened (admitted : call.Admitted) (opened : window.contains (reading start.now start.state) = true)
    (running : start.Running none) :
    ∃ (β : Type) (op : StoreOp β) (told : Except StoreError β → Except Status α) (outcome : Except StoreError β)
      (stop : Moment Bench) (count : Nat), call.Operation op told ∧
      ((policy.guard Timed.timing (faulty schedule)).call op).runFrom start = (.ok outcome, stop) ∧
      (handle (faultyService policy schedule window reading) call).runFrom start = (.ok (told outcome), stop) ∧
      count ≤ policy.maxRetries ∧
      stop.state.asked = start.state.asked ++ List.replicate (count + 1) op.action := by
  obtain ⟨β, op, told, operation, run⟩ := runFrom_admitted policy schedule window reading admitted start
  have logged := timely_logged policy schedule op start.state.asked policy.maxRetries fun _ _ => False
  obtain ⟨outcome, stop, performed, _, count, allowed, asked⟩ := logged.total running rfl
  have answered : ((policy.guard Timed.timing (faulty schedule)).call op).runFrom start = (.ok outcome, stop) :=
    performed
  refine ⟨β, op, told, outcome, stop, count, operation, answered, ?_, allowed, asked⟩
  rw [run, opened, if_pos rfl, runFrom_map, answered]
  rfl

/-- A service that may repeat its attempts at a store with any faults refuses exactly the messages that break a
rule, and does nothing then. To any other it answers that it is closed, without an attempt, or it asks the store
for the one operation of the message, on the key of its session. -/
theorem boundary_exact (call : WireCall α) (running : start.Running none) :
    ∃ reply stop, (handle (faultyService policy schedule window reading) call).runFrom start = (.ok reply, stop) ∧
      ((∃ status, reply = .error status ∧ status.code = .invalidArgument) ↔ ¬ call.Admitted) ∧
      (¬ call.Admitted → stop = start) ∧
      (call.Admitted → window.contains (reading start.now start.state) = false →
        reply = .error ⟨.unavailable, "session status service is outside its service window at " ++
          toString (reading start.now start.state)⟩ ∧ stop = start) ∧
      (call.Admitted → window.contains (reading start.now start.state) = true →
        ∃ (β : Type) (op : StoreOp β) (told : Except StoreError β → Except Status α) (outcome : Except StoreError β)
          (count : Nat), call.Operation op told ∧
          ((policy.guard Timed.timing (faulty schedule)).call op).runFrom start = (.ok outcome, stop) ∧
          reply = told outcome ∧ count ≤ policy.maxRetries ∧
          stop.state.asked = start.state.asked ++ List.replicate (count + 1) op.action) := by
  by_cases admitted : call.Admitted
  · cases opened : window.contains (reading start.now start.state) with
    | false =>
      refine ⟨_, start, run_closed policy schedule window reading admitted opened,
        ⟨?_, fun refused => absurd admitted refused⟩, fun _ => rfl, fun _ _ => ⟨rfl, rfl⟩, nofun⟩
      rintro ⟨status, failed, code⟩
      rw [← Except.error.inj failed] at code
      cases code
    | true =>
      obtain ⟨β, op, told, outcome, stop, count, operation, performed, run, allowed, asked⟩ :=
        run_opened policy schedule window reading admitted opened running
      refine ⟨told outcome, stop, run, ⟨?_, fun refused => absurd admitted refused⟩,
        fun refused => absurd admitted refused, nofun, fun _ _ => ?_⟩
      · rintro ⟨status, failed, code⟩
        exact absurd code (operation.blameless failed)
      · exact ⟨β, op, told, outcome, count, operation, performed, rfl, allowed, asked⟩
  · obtain ⟨failure, run⟩ := run_refused policy schedule window reading admitted
    exact ⟨_, start, run, ⟨fun _ => admitted, fun _ => ⟨_, rfl, rfl⟩⟩, fun _ => rfl,
      fun impossible => absurd impossible admitted, fun impossible => absurd impossible admitted⟩

end

/-! ### An update over a store that fails once -/

def failsOnce : Nat → Fault
  | 0 => .fail (.unavailable "reset")
  | _ => .plain

def untilHundred : ServiceWindow := { notAfter := some 100 }

def fresh : Moment Bench := { state := { store := .empty } }

def filed (serviceNow : Nat) (message : UpdateMessage) : Except CutOff (Except Status AckMessage) × Moment Bench :=
  (handle (faultyService .standard failsOnce untilHundred fun _ _ => serviceNow) (.update message)).runFrom fresh

def signature : UpdateMessage where
  header := some { sessionId := "s_60" }
  caller := "RPC.Sign"
  auth := "mid"
  lease := "\u3000"
  ttl := " +060"

theorem update_admitted_once : fresh.Running none ∧
    (signature.Admitted ∧ untilHundred.contains 50 = true ∧
      ∃ stop, filed 50 signature = (.ok (.ok { ok := true }), stop) ∧ stop.state.asked = List.replicate 2
        (.put "/session/s_60" (RecordText.encode (some .sign) .mobileId) .none { seconds := 60 })) ∧
    (untilHundred.contains 100 = false ∧ filed 100 signature =
      (.ok (.error ⟨.unavailable, "session status service is outside its service window at 100"⟩), fresh)) ∧
    (¬ ({ signature with ttl := "0" } : UpdateMessage).Admitted ∧ filed 50 { signature with ttl := "0" } =
      (.ok (.error ⟨.invalidArgument, "ttl: must be within 1..=86400, got 0"⟩), fresh)) := by
  have running : fresh.Running none := ⟨Nat.le_refl 0, rfl, nofun⟩
  have named : SessionId.Valid "s_60" := ⟨by decide, by decide, by decide⟩
  have admitted : signature.Admitted := {
    header := ⟨_, rfl, HeaderMessage.admitted_iff.2 ⟨{ sessionId := ⟨"s_60", named⟩ }, rfl, rfl⟩⟩
    caller := ⟨.sign, rfl⟩
    auth := by decide
    lease := .inl (List.all_eq_true.1 rfl)
    ttl := ⟨"+060".toList, 60, ⟨[' '], [], rfl, List.all_eq_true.1 rfl, by simp⟩, .plus ⟨1, rfl⟩, by decide, by decide⟩ }
  have exact_at (serviceNow : Nat) (message : UpdateMessage) :=
    boundary_exact .standard failsOnce untilHundred (fun _ _ => serviceNow) (.update message) running
  refine ⟨running, ⟨admitted, rfl, ?_⟩, ⟨rfl, ?_⟩, ?_⟩
  · have acknowledged : (filed 50 signature).1 = .ok (.ok { ok := true }) := by decide +kernel
    have asked : (filed 50 signature).2.state.asked = List.replicate 2
        (.put "/session/s_60" (RecordText.encode (some .sign) .mobileId) .none { seconds := 60 }) := by decide +kernel
    obtain ⟨reply, stop, run, _⟩ := exact_at 50 signature
    have same : filed 50 signature = (.ok reply, stop) := run
    rw [same] at acknowledged asked
    cases acknowledged
    exact ⟨stop, same, asked⟩
  · obtain ⟨reply, stop, run, _, _, closed, _⟩ := exact_at 100 signature
    obtain ⟨rfl, rfl⟩ := closed admitted rfl
    exact run
  · have told : (filed 50 { signature with ttl := "0" }).1 =
        .ok (.error ⟨.invalidArgument, "ttl: must be within 1..=86400, got 0"⟩) := by decide +kernel
    obtain ⟨reply, stop, run, refusal, untouched, _⟩ := exact_at 50 { signature with ttl := "0" }
    have same : filed 50 { signature with ttl := "0" } = (.ok reply, stop) := run
    rw [same] at told
    cases told
    have refused := refusal.1 ⟨_, rfl, rfl⟩
    rw [untouched refused] at same
    exact ⟨refused, same⟩

end Scenario

end VoterSession
