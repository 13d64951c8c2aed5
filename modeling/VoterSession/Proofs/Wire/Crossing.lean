import VoterSession.Proofs.Scenario.Attempt
import VoterSession.Proofs.Wire.Conversion
import VoterSession.Scenario.Run
set_option autoImplicit false

/-!
One call over a channel. The near end sees what it makes of the messages and statuses that the service's
answer becomes, which is what a client in the same process sees of that answer, provided that the service
blames no request that was built and shows no lease that was not granted. Main statements:
`client_toService_call`, `StatusCall.Answers.crossed` and `triple_serve`.
-/
namespace VoterSession

namespace StatusCall

/-- Whether the constructor of this request builds it. The number of a lease is a signed 64-bit word. -/
def Built {α : Type} : StatusCall α → Prop
  | .read request => ReadRequest.ofHeader request.header = .ok request
  | .update request =>
    UpdateRequest.ofFields request.header request.caller request.auth request.lease request.ttl =
      .ok request ∧ request.lease.number ≤ Text.Decimal.maxInt64
  | .delete request => DeleteRequest.ofHeader request.header = .ok request

def Answers (last : Int) {α : Type} : StatusCall α → Except ServiceError α → Prop
  | .read request, .ok response => ∃ record : SessionRecord, response = { header := request.header, record } ∧
      0 ≤ record.lease.number ∧ record.lease.number ≤ last
  | .update _, .ok ack => ack = .done
  | .delete _, .ok ack => ack = .done
  | _, .error failure => ∀ violation, failure ≠ .invalidRequest violation

/-- What the near end of a channel makes of an answer of the service. -/
def crossed {α : Type} : StatusCall α → Except ServiceError α → Except ClientError α
  | .read _, .ok response => Wire.Channel.readAnswer (.ofResponse response)
  | .update _, .ok ack => .ok (Wire.AckMessage.ofAck ack).toAck
  | .delete _, .ok ack => .ok (Wire.AckMessage.ofAck ack).toAck
  | _, .error failure => .error (Wire.Status.ofService failure).clientError

variable {α : Type} {call : StatusCall α}

theorem Built.valid (built : call.Built) : call.validate = .ok () := by
  cases call with
  | read request =>
    obtain ⟨valid, same⟩ := ReadRequest.ofHeader_eq_ok_iff.1 built
    rw [same]
    exact ReadRequest.validate_of_header valid
  | update request =>
    obtain ⟨valid, same⟩ := UpdateRequest.ofFields_eq_ok_iff.1 built.1
    have current : request.version = contractVersion := by rw [same]
    exact (UpdateRequest.validate_eq_ok_iff current).2 valid
  | delete request =>
    obtain ⟨valid, same⟩ := DeleteRequest.ofHeader_eq_ok_iff.1 built
    rw [same]
    exact DeleteRequest.validate_of_header valid

theorem Answers.crossed {last : Int} {answer : Except ServiceError α} (answers : call.Answers last answer)
    (built : call.Built) (bounded : last ≤ Text.Decimal.maxInt64) :
    call.crossed answer = answer.mapError ClientError.ofService := by
  cases answer with
  | error failure =>
    have told : call.crossed (.error failure) = .error (Wire.Status.ofService failure).clientError := by
      cases call <;> rfl
    have blameless : ∀ violation, failure ≠ .invalidRequest violation := by
      cases call <;> exact answers
    rw [told, Wire.Status.clientError_ofService blameless]
    rfl
  | ok answer =>
    cases call with
    | read request =>
      obtain ⟨record, rfl, counted, granted⟩ := answers
      have valid := (ReadRequest.ofHeader_eq_ok_iff.1 built).1
      have arrives := Wire.RecordMessage.toResponse_ofResponse valid counted (Int.le_trans granted bounded)
      simp only [StatusCall.crossed, Wire.Channel.readAnswer, arrives]
      rfl
    | update request =>
      cases answers
      rfl
    | delete request =>
      cases answers
      rfl

end StatusCall

namespace Wire.Channel

variable {m : Type → Type} [Monad m] [LawfulMonad m] {α : Type}

theorem client_toService_call (service : StatusService m) {call : StatusCall α} (built : call.Built) :
    (toService service).client.call call = call.crossed <$> service.serve call := by
  cases call with
  | read request =>
    simp only [client, toService, handle, SessionMessage.toReadRequest_ofReadRequest built, map_eq_pure_bind,
      bind_assoc, pure_bind]
    congr 1
    funext answer
    cases answer <;> rfl
  | update request =>
    simp only [client, toService, handle, UpdateMessage.toRequest_ofRequest built.1 built.2, map_eq_pure_bind,
      bind_assoc, pure_bind]
    congr 1
    funext answer
    cases answer <;> rfl
  | delete request =>
    simp only [client, toService, handle, SessionMessage.toDeleteRequest_ofDeleteRequest built,
      map_eq_pure_bind, bind_assoc, pure_bind]
    congr 1
    funext answer
    cases answer <;> rfl

end Wire.Channel

namespace Scenario

open Timed

variable {α : Type}

def Recorded (last : Int) (answer : Except RepoError SessionRecord) : Prop :=
  ∀ record, answer = .ok record → 0 ≤ record.lease.number ∧ record.lease.number ≤ last

theorem recorded_record {world : World} (sound : world.store.Sound) {key : String}
    {stored : Option StoredValue}
    (answers : (StoreOp.get key).Answers world.store.lastLease (.ok stored)) :
    Recorded world.store.lastLease (Sessions.record key stored) := by
  intro record hrecord
  cases stored with
  | none =>
    cases hrecord
    exact ⟨Int.le_refl 0, sound.counted⟩
  | some stored =>
    rw [Sessions.record] at hrecord
    split at hrecord <;> cases hrecord
    exact answers

variable {store : StoreClient (Timed World)} {service : StatusService (Timed World)}

theorem triple_read (orderly : Orderly store) (id : SessionId) (floor : Int) :
    Triple (Numbered floor) (Sessions.read store id)
      (fun answer world => Numbered floor world ∧ Recorded world.store.lastLease answer)
      (Numbered floor) := by
  refine (orderly.call _ floor).bind fun answer => ?_
  cases answer with
  | error source => exact Triple.pure fun _ kept => ⟨kept.1, by simp [Recorded]⟩
  | ok stored => exact Triple.pure fun _ kept => ⟨kept.1, recorded_record kept.1.sound kept.2⟩

theorem steady_update (orderly : Orderly store) (id : SessionId) (caller : Method) (auth : AuthTag)
    (lease : LeaseId) (ttl : Ttl) : Steady (Sessions.update store id caller auth lease ttl) := by
  intro floor
  refine (orderly.call _ floor).bind fun answer => ?_
  cases answer <;> exact Triple.pure fun _ kept => kept.1

theorem steady_delete (orderly : Orderly store) (id : SessionId) : Steady (Sessions.delete store id) := by
  intro floor
  refine (orderly.call _ floor).bind fun answer => ?_
  cases answer <;> exact Triple.pure fun _ kept => kept.1

theorem triple_perform (orderly : Orderly service.store) (call : StatusCall α) (floor : Int) :
    Triple (Numbered floor) (service.perform call)
      (fun answer world => Numbered floor world ∧ (call.Built → call.Answers world.store.lastLease answer))
      (Numbered floor) := by
  cases call with
  | read request =>
    refine (triple_read orderly _ floor).bind fun answer => ?_
    cases answer with
    | error source => exact Triple.pure fun _ kept => ⟨kept.1, by simp [StatusCall.Answers]⟩
    | ok record =>
      refine Triple.pure fun _ kept => ⟨kept.1, fun built => ?_⟩
      rw [ReadResponse.ofRecord_of_header (ReadRequest.ofHeader_eq_ok_iff.1 built).1]
      exact ⟨record, rfl, kept.2 record rfl⟩
  | update request =>
    refine (steady_update orderly _ _ _ _ _ floor).bind fun answer => ?_
    cases answer with
    | error source => exact Triple.pure fun _ kept => ⟨kept, by simp [StatusCall.Answers]⟩
    | ok _ => exact Triple.pure fun _ kept => ⟨kept, fun _ => rfl⟩
  | delete request =>
    refine (steady_delete orderly _ floor).bind fun answer => ?_
    cases answer with
    | error source => exact Triple.pure fun _ kept => ⟨kept, by simp [StatusCall.Answers]⟩
    | ok _ => exact Triple.pure fun _ kept => ⟨kept, fun _ => rfl⟩

theorem triple_serve (orderly : Orderly service.store) (ticking : service.clock = World.clock)
    (call : StatusCall α) (floor : Int) :
    Triple (Numbered floor) (service.serve call)
      (fun answer world => Numbered floor world ∧ (call.Built → call.Answers world.store.lastLease answer))
      (Numbered floor) := by
  have clock : Steady service.clock := ticking ▸ steady_clock
  refine (clock floor).bind fun now => ?_
  split
  · cases checked : call.validate with
    | ok _ => exact triple_perform orderly call floor
    | error violation =>
      refine Triple.pure fun _ numbered => ⟨numbered, fun built => ?_⟩
      rw [built.valid] at checked
      cases checked
  · refine Triple.pure fun _ numbered => ⟨numbered, fun _ => ?_⟩
    cases call <;> simp [StatusCall.Answers]

end Scenario

end VoterSession
