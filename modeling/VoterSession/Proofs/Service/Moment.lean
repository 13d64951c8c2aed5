import VoterSession.Proofs.Session.Request
import VoterSession.Proofs.Store.RecordText
import VoterSession.Proofs.Store.Step
import VoterSession.Service.Verifier
set_option autoImplicit false

/-!
The session status service over the lease store at one moment. Each call is one operation of the store,
so its answer and its effect are said in what the store shows at that moment.
-/
namespace VoterSession

def LeaseStore.client (now : Nat) : StoreClient (StateM LeaseStore) where
  call op := modifyGet (LeaseStore.step now op)

namespace StatusService

/-- The service over the store in memory, with its own clock at `serviceNow` and the store's at `now`. -/
def inMemory (window : ServiceWindow) (serviceNow now : Nat) : StatusService (StateM LeaseStore) where
  store := LeaseStore.client now
  window := window
  clock := pure serviceNow

variable {window : ServiceWindow} {serviceNow now : Nat} {store : LeaseStore}

def refusal (id : SessionId) (failure : StoreError) : ClientError :=
  .ofService (.repo (.store (Sessions.key id) failure))

theorem client_closed {α : Type} (call : StatusCall α) (closed : window.contains serviceNow = false) :
    ((inMemory window serviceNow now).client.call call).run store =
      (.error (.ofService (.outsideWindow serviceNow)), store) := by
  simp only [client, serve, inMemory, closed, pure_bind]
  rfl

theorem client_invalid {α : Type} {call : StatusCall α} {violation : Violation}
    (opened : window.contains serviceNow = true) (invalid : call.validate = .error violation) :
    ((inMemory window serviceNow now).client.call call).run store =
      (.error (.invalidRequest violation.message), store) := by
  simp only [client, serve, inMemory, opened, invalid, pure_bind]
  rfl

theorem client_open {α : Type} (call : StatusCall α) (opened : window.contains serviceNow = true)
    (valid : call.validate = .ok ()) :
    ((inMemory window serviceNow now).client.call call).run store =
      let (answer, after) := ((inMemory window serviceNow now).perform call).run store
      (answer.mapError ClientError.ofService, after) := by
  simp only [client, serve, inMemory, opened, valid, pure_bind, if_true]
  rfl

theorem client_read (request : ReadRequest) (opened : window.contains serviceNow = true)
    (valid : request.validate = .ok ()) {stored : Option StoredValue} {after : LeaseStore}
    (found : store.step now (.get (Sessions.key request.header.sessionId)) = (.ok stored, after)) :
    ((inMemory window serviceNow now).client.call (.read request)).run store =
      (match Sessions.record (Sessions.key request.header.sessionId) stored with
        | .ok record => ((ReadResponse.ofRecord request.header record).mapError
            ServiceError.invalidRequest).mapError .ofService
        | .error source => .error (.ofService (.repo source)), after) := by
  rw [client_open (.read request) opened valid]
  simp only [perform, Sessions.read, inMemory, LeaseStore.client, bind_assoc, StateT.run_bind,
    StateT.run_modifyGet, found, pure_bind, StateT.run_pure]
  cases Sessions.record (Sessions.key request.header.sessionId) stored <;> rfl

theorem client_update (request : UpdateRequest) (opened : window.contains serviceNow = true)
    (valid : request.validate = .ok ()) :
    ((inMemory window serviceNow now).client.call (.update request)).run store =
      match store.step now (.put (Sessions.key request.header.sessionId)
        (RecordText.encode (some request.caller) request.auth) request.lease request.ttl) with
      | (.ok (), after) => (.ok .done, after)
      | (.error failure, after) => (.error (refusal request.header.sessionId failure), after) := by
  rw [client_open (.update request) opened valid]
  simp only [perform, Sessions.update, inMemory, LeaseStore.client, bind_assoc, StateT.run_bind,
    StateT.run_modifyGet, pure_bind]
  rcases store.step now (.put (Sessions.key request.header.sessionId)
    (RecordText.encode (some request.caller) request.auth) request.lease request.ttl) with
    ⟨_ | _, after⟩ <;> rfl

theorem client_delete (request : DeleteRequest) (opened : window.contains serviceNow = true)
    (valid : request.validate = .ok ()) :
    ((inMemory window serviceNow now).client.call (.delete request)).run store =
      match store.step now (.delete (Sessions.key request.header.sessionId)) with
      | (.ok (), after) => (.ok .done, after)
      | (.error failure, after) => (.error (refusal request.header.sessionId failure), after) := by
  rw [client_open (.delete request) opened valid]
  simp only [perform, Sessions.delete, inMemory, LeaseStore.client, bind_assoc, StateT.run_bind,
    StateT.run_modifyGet, pure_bind]
  rcases store.step now (.delete (Sessions.key request.header.sessionId)) with ⟨_ | _, after⟩ <;> rfl

end StatusService

/-! ### What one message does to what the store shows -/

namespace LeaseStore

/-- A moment that changed nothing an operation can see. -/
structure Unmoved (now : Nat) (store after : LeaseStore) : Prop where
  sound : after.Sound
  counted : after.lastLease = store.lastLease
  seen : ∀ key, after.seen now key = store.seen now key

/-- An update that took effect: its record is kept alive by `held` for `ttl` milliseconds, and every other
key on that lease got as long. -/
structure Written (now : Nat) (request : UpdateRequest) (held : LeaseId) (ttl : Nat)
    (store after : LeaseStore) : Prop where
  sound : after.Sound
  seen : ∀ key, after.seen now key =
    if key = Sessions.key request.header.sessionId then
      some ⟨RecordText.encode (some request.caller) request.auth, held, ttl, now + ttl⟩
    else (store.seen now key).map (Holding.renewed now held)
  source : request.lease = .none ∧ held = ⟨store.lastLease + 1⟩ ∧ ttl = request.ttl.millis ∧
      after.lastLease = store.lastLease + 1 ∨
    request.lease ≠ .none ∧ held = request.lease ∧ after.lastLease = store.lastLease ∧
      ∃ key holding, store.seen now key = some holding ∧ holding.lease = held ∧ holding.ttl = ttl

structure Removed (now : Nat) (id : SessionId) (store after : LeaseStore) : Prop where
  sound : after.Sound
  counted : after.lastLease = store.lastLease
  seen : ∀ key, after.seen now key = if key = Sessions.key id then none else store.seen now key

variable {store : LeaseStore}

theorem Sound.unmoved (sound : store.Sound) (now : Nat) : store.Unmoved now store :=
  ⟨sound, rfl, fun _ => rfl⟩

theorem Sound.unmoved_purge (sound : store.Sound) (now : Nat) : Unmoved now store (store.purge now) :=
  ⟨sound.purge now, rfl, sound.seen_now_purge now⟩

theorem Sound.seen_renewed_next (sound : store.Sound) (now : Nat) (key : String) :
    (store.seen now key).map (Holding.renewed now ⟨store.lastLease + 1⟩) = store.seen now key :=
  map_renewed_of_dead (sound.not_alive_of_lt now (Int.lt_succ _)) key

end LeaseStore

namespace SessionWrite

open StatusService

variable {window : ServiceWindow} {serviceNow now : Nat} {store : LeaseStore}

def deliver (window : ServiceWindow) (serviceNow now : Nat) (write : SessionWrite) (store : LeaseStore) :
    Except ClientError Ack × LeaseStore :=
  (write.send (inMemory window serviceNow now).client).run store

theorem deliver_closed (write : SessionWrite) (closed : window.contains serviceNow = false) :
    write.deliver window serviceNow now store =
      (.error (.ofService (.outsideWindow serviceNow)), store) := by
  cases write with
  | update request => exact client_closed (.update request) closed
  | delete request => exact client_closed (.delete request) closed

theorem deliver_fresh (sound : store.Sound) (now : Nat) {request : UpdateRequest}
    (opened : window.contains serviceNow = true) (valid : request.validate = .ok ())
    (fresh : request.lease = .none) :
    ∃ after, (update request).deliver window serviceNow now store = (.ok .done, after) ∧
      LeaseStore.Written now request ⟨store.lastLease + 1⟩ request.ttl.millis store after := by
  obtain ⟨after, hstep, hsound, hlast, hseen⟩ := sound.step_put_none now
    (Sessions.key request.header.sessionId) (RecordText.encode (some request.caller) request.auth)
    request.ttl
  refine ⟨after, ?_, hsound, ?_, .inl ⟨fresh, rfl, rfl, hlast⟩⟩
  · rw [deliver, send, client_update request opened valid, fresh, hstep]
  · intro key
    rw [hseen, sound.seen_renewed_next]

theorem deliver_alive (sound : store.Sound) {request : UpdateRequest} {key : String} {holding : Holding}
    (opened : window.contains serviceNow = true) (valid : request.validate = .ok ())
    (alive : store.seen now key = some holding) (same : holding.lease = request.lease) :
    ∃ after, (update request).deliver window serviceNow now store = (.ok .done, after) ∧
      LeaseStore.Written now request request.lease holding.ttl store after := by
  obtain ⟨after, hstep, hsound, hlast, hseen⟩ := @LeaseStore.Sound.step_put_alive store sound now
    (Sessions.key request.header.sessionId) key holding
    (RecordText.encode (some request.caller) request.auth) request.ttl alive
  rw [same] at hstep hseen
  have named : request.lease ≠ .none := by
    intro none
    exact sound.not_alive_none now ⟨key, holding, alive, same.trans none⟩
  refine ⟨after, ?_, hsound, hseen, .inr ⟨named, rfl, hlast, key, holding, alive, same, rfl⟩⟩
  rw [deliver, send, client_update request opened valid, hstep]

theorem deliver_dead (sound : store.Sound) {request : UpdateRequest}
    (opened : window.contains serviceNow = true) (valid : request.validate = .ok ())
    (named : request.lease ≠ .none) (dead : ¬ store.Alive now request.lease) :
    (update request).deliver window serviceNow now store =
      (.error (refusal request.header.sessionId (.leaseNotFound request.lease)), store.purge now) := by
  rw [deliver, send, client_update request opened valid, sound.step_put_dead _ _ _ named dead]

theorem deliver_delete (sound : store.Sound) {request : DeleteRequest}
    (opened : window.contains serviceNow = true) (valid : request.validate = .ok ()) :
    ∃ after, (delete request).deliver window serviceNow now store = (.ok .done, after) ∧
      LeaseStore.Removed now request.header.sessionId store after := by
  obtain ⟨after, hstep, hsound, hlast, hseen⟩ :=
    sound.step_delete now (Sessions.key request.header.sessionId)
  refine ⟨after, ?_, hsound, hlast, hseen⟩
  rw [deliver, send, client_delete request opened valid, hstep]

theorem deliver_update_cases (sound : store.Sound) (window : ServiceWindow) (serviceNow now : Nat)
    (request : UpdateRequest) :
    (∃ failure after, (update request).deliver window serviceNow now store = (.error failure, after) ∧
      LeaseStore.Unmoved now store after) ∨
    ∃ after held ttl, (update request).deliver window serviceNow now store = (.ok .done, after) ∧
      LeaseStore.Written now request held ttl store after := by
  cases opened : window.contains serviceNow with
  | false => exact .inl ⟨_, _, deliver_closed _ opened, sound.unmoved now⟩
  | true =>
    cases valid : request.validate with
    | error violation => exact .inl ⟨_, _, client_invalid opened valid, sound.unmoved now⟩
    | ok _ =>
      by_cases fresh : request.lease = .none
      · obtain ⟨after, hdeliver, written⟩ := deliver_fresh sound now opened valid fresh
        exact .inr ⟨after, _, _, hdeliver, written⟩
      · by_cases alive : store.Alive now request.lease
        · obtain ⟨key, holding, hseen, same⟩ := alive
          obtain ⟨after, hdeliver, written⟩ := deliver_alive sound opened valid hseen same
          exact .inr ⟨after, _, _, hdeliver, written⟩
        · exact .inl ⟨_, _, deliver_dead sound opened valid fresh alive, sound.unmoved_purge now⟩

theorem deliver_delete_cases (sound : store.Sound) (window : ServiceWindow) (serviceNow now : Nat)
    (request : DeleteRequest) :
    (∃ failure after, (delete request).deliver window serviceNow now store = (.error failure, after) ∧
      LeaseStore.Unmoved now store after) ∨
    ∃ after, (delete request).deliver window serviceNow now store = (.ok .done, after) ∧
      LeaseStore.Removed now request.header.sessionId store after := by
  cases opened : window.contains serviceNow with
  | false => exact .inl ⟨_, _, deliver_closed _ opened, sound.unmoved now⟩
  | true =>
    cases valid : request.validate with
    | error violation => exact .inl ⟨_, _, client_invalid opened valid, sound.unmoved now⟩
    | ok _ => exact .inr (deliver_delete sound opened valid)

end SessionWrite

namespace ReadRequest

open StatusService

variable {window : ServiceWindow} {serviceNow now : Nat} {store : LeaseStore}

def deliver (window : ServiceWindow) (serviceNow now : Nat) (request : ReadRequest) (store : LeaseStore) :
    Except ClientError ReadResponse × LeaseStore :=
  ((inMemory window serviceNow now).client.call (.read request)).run store

theorem deliver_closed (request : ReadRequest) (closed : window.contains serviceNow = false) :
    request.deliver window serviceNow now store =
      (.error (.ofService (.outsideWindow serviceNow)), store) := client_closed (.read request) closed

theorem deliver_open (sound : store.Sound) {header : Header} (valid : header.validate = .ok ())
    (opened : window.contains serviceNow = true) :
    ({ header } : ReadRequest).deliver window serviceNow now store =
      (match Sessions.record (Sessions.key header.sessionId)
          ((store.seen now (Sessions.key header.sessionId)).map Holding.stored) with
        | .ok record => .ok { header, record }
        | .error source => .error (.ofService (.repo source)), store.purge now) := by
  have found := sound.step_get now (Sessions.key header.sessionId)
  rw [deliver, client_read { header } opened (validate_of_header valid) found]
  simp only [ReadResponse.ofRecord_of_header valid]
  cases Sessions.record (Sessions.key header.sessionId)
    ((store.seen now (Sessions.key header.sessionId)).map Holding.stored) <;> rfl

theorem deliver_empty (sound : store.Sound) {header : Header} (valid : header.validate = .ok ())
    (opened : window.contains serviceNow = true)
    (absent : store.seen now (Sessions.key header.sessionId) = none) :
    ({ header } : ReadRequest).deliver window serviceNow now store =
      (.ok { header, record := .empty }, store.purge now) := by
  rw [deliver_open sound valid opened, absent]
  rfl

theorem deliver_record (sound : store.Sound) {header : Header} (valid : header.validate = .ok ())
    (opened : window.contains serviceNow = true) {holding : Holding} {caller : Method} {tag : AuthTag}
    (present : store.seen now (Sessions.key header.sessionId) = some holding)
    (written : holding.value = RecordText.encode (some caller) tag) :
    ({ header } : ReadRequest).deliver window serviceNow now store =
      (.ok { header, record := ⟨some caller, tag, holding.lease⟩ }, store.purge now) := by
  rw [deliver_open sound valid opened, present]
  simp only [Option.map_some, Sessions.record, Holding.stored, written, RecordText.decode_encode]

end ReadRequest

end VoterSession
