import VoterSession.Proofs.Session.Lease
import VoterSession.Proofs.Session.Request
import VoterSession.Wire.Remote
set_option autoImplicit false

/-!
What crosses a channel arrives as it was sent: the requests that their constructors build, the answers to
them as far as a signed 64-bit word holds their leases, and every error of a service that does not blame
the request.
-/
namespace VoterSession.Wire

theorem HeaderMessage.toHeader_ofHeader {header : Header} (valid : header.validate = .ok ()) :
    (ofHeader header).toHeader = .ok header := by
  have unchecked : (ofHeader header).unchecked = .ok header := by
    simp only [HeaderMessage.unchecked, ofHeader, SessionId.ofText_text]
    rfl
  simp only [toHeader, unchecked, bind, Except.bind, valid]
  rfl

theorem requiredHeader_ofHeader {header : Header} (valid : header.validate = .ok ()) :
    requiredHeader (some (.ofHeader header)) = .ok header := by
  rw [requiredHeader, HeaderMessage.toHeader_ofHeader valid]
  rfl

theorem callerOfText_callerName (caller : Option Method) :
    callerOfText (Method.callerName caller) = .ok caller := by
  cases caller with
  | none => rfl
  | some method =>
    rw [callerOfText, Method.callerName, if_neg method.name_ne_empty, Method.ofName?_name]

theorem requiredCaller_name (method : Method) : requiredCaller method.name = .ok method := by
  have named := callerOfText_callerName (some method)
  rw [Method.callerName] at named
  simp only [requiredCaller, named, bind, Except.bind]
  rfl

theorem authOfText_name (tag : AuthTag) : authOfText tag.name = .ok tag := by
  rw [authOfText, AuthTag.ofName?_name]

theorem checked_lease {lease : LeaseId} (counted : 0 ≤ lease.number)
    (bounded : lease.number ≤ Text.Decimal.maxInt64) : checked (LeaseId.ofText lease.text) = .ok lease := by
  rw [LeaseId.ofText_text counted bounded]
  rfl

/-! ### Requests -/

theorem SessionMessage.toReadRequest_ofReadRequest {request : ReadRequest}
    (built : ReadRequest.ofHeader request.header = .ok request) :
    (ofReadRequest request).toReadRequest = .ok request := by
  have valid := (ReadRequest.ofHeader_eq_ok_iff.1 built).1
  simp only [toReadRequest, ofReadRequest, requiredHeader_ofHeader valid, bind, Except.bind, built]
  rfl

theorem SessionMessage.toDeleteRequest_ofDeleteRequest {request : DeleteRequest}
    (built : DeleteRequest.ofHeader request.header = .ok request) :
    (ofDeleteRequest request).toDeleteRequest = .ok request := by
  have valid := (DeleteRequest.ofHeader_eq_ok_iff.1 built).1
  simp only [toDeleteRequest, ofDeleteRequest, requiredHeader_ofHeader valid, bind, Except.bind, built]
  rfl

theorem UpdateMessage.toRequest_ofRequest {request : UpdateRequest}
    (built : UpdateRequest.ofFields request.header request.caller request.auth request.lease request.ttl =
      .ok request)
    (bounded : request.lease.number ≤ Text.Decimal.maxInt64) :
    (ofRequest request).toRequest = .ok request := by
  obtain ⟨valid, counted, _⟩ := (UpdateRequest.ofFields_eq_ok_iff.1 built).1
  have lifetime : checked (Ttl.ofText request.ttl.text) = .ok request.ttl := by
    rw [Ttl.ofText_text]
    rfl
  simp only [toRequest, ofRequest, requiredHeader_ofHeader valid, requiredCaller_name, authOfText_name,
    checked_lease counted bounded, lifetime, bind, Except.bind, built]
  rfl

/-! ### Answers -/

theorem RecordMessage.toResponse_ofResponse {header : Header} {record : SessionRecord}
    (valid : header.validate = .ok ()) (counted : 0 ≤ record.lease.number)
    (bounded : record.lease.number ≤ Text.Decimal.maxInt64) :
    (ofResponse { header, record }).toResponse = .ok { header, record } := by
  simp only [toResponse, ofResponse, requiredHeader_ofHeader valid, SessionRecord.callerName,
    callerOfText_callerName, authOfText_name, checked_lease counted bounded, bind, Except.bind,
    ReadResponse.ofRecord_of_header valid]
  rfl

/-- The two translations of an error differ only in the sentence for a request that broke its contract. -/
theorem Status.clientError_ofService {failure : ServiceError}
    (blameless : ∀ violation, failure ≠ .invalidRequest violation) :
    (Status.ofService failure).clientError = .ofService failure := by
  cases failure with
  | outsideWindow now => rfl
  | invalidRequest violation => exact absurd rfl (blameless violation)
  | repo source =>
    cases source with
    | corrupt key reason => rfl
    | store key source => cases source <;> rfl

end VoterSession.Wire
