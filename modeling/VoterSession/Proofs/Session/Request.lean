import VoterSession.Session.Request
set_option autoImplicit false

/-!
Which requests can be built, and that a request that was built passes its own check again.
-/
namespace VoterSession

theorem ReadRequest.ofHeader_eq (header : Header) :
    ReadRequest.ofHeader header = header.validate.bind fun _ => .ok { header } := rfl

theorem ReadRequest.ofHeader_eq_ok_iff {header : Header} {request : ReadRequest} :
    ReadRequest.ofHeader header = .ok request ↔ header.validate = .ok () ∧ request = { header } := by
  rw [ofHeader_eq]
  cases header.validate with
  | error violation => simp [Except.bind]
  | ok _ => simp [Except.bind, eq_comm]

theorem ReadRequest.validate_of_header {header : Header} (valid : header.validate = .ok ()) :
    ({ header } : ReadRequest).validate = .ok () := valid

theorem ReadResponse.ofRecord_eq_ok_iff {header : Header} {record : SessionRecord} {response : ReadResponse} :
    ReadResponse.ofRecord header record = .ok response ↔
      header.validate = .ok () ∧ response = { header, record } := by
  have steps : ReadResponse.ofRecord header record =
    header.validate.bind fun _ => .ok { header, record } := rfl
  rw [steps]
  cases header.validate with
  | error violation => simp [Except.bind]
  | ok _ => simp [Except.bind, eq_comm]

theorem ReadResponse.ofRecord_of_header {header : Header} (valid : header.validate = .ok ())
    (record : SessionRecord) : ReadResponse.ofRecord header record = .ok { header, record } :=
  ofRecord_eq_ok_iff.2 ⟨valid, rfl⟩

theorem ReadResponse.validate_of_header {header : Header} (valid : header.validate = .ok ())
    (record : SessionRecord) : ({ header, record } : ReadResponse).validate = .ok () := valid

theorem DeleteRequest.ofHeader_eq (header : Header) : DeleteRequest.ofHeader header =
    ({ header } : DeleteRequest).validate.bind fun _ => .ok { header } := rfl

theorem DeleteRequest.ofHeader_eq_ok_iff {header : Header} {request : DeleteRequest} :
    DeleteRequest.ofHeader header = .ok request ↔ header.validate = .ok () ∧ request = { header } := by
  have version : ({ header } : DeleteRequest).validate = header.validate := rfl
  rw [ofHeader_eq, version]
  cases header.validate with
  | error violation => simp [Except.bind]
  | ok _ => simp [Except.bind, eq_comm]

theorem DeleteRequest.validate_of_header {header : Header} (valid : header.validate = .ok ()) :
    ({ header } : DeleteRequest).validate = .ok () := valid

theorem UpdateRequest.validate_eq_ok_iff {request : UpdateRequest} (current : request.version = contractVersion) :
    request.validate = .ok () ↔ request.header.validate = .ok () ∧ 0 ≤ request.lease.number ∧
      request.auth.isResolved = true := by
  have steps : request.validate = (checkVersion request.version).bind fun _ =>
      request.header.validate.bind fun _ =>
        if request.lease.number < 0 then
          .error (.invalidValue "session_status_update_request.lease" "must be >= 0")
        else if !request.auth.isResolved then
          .error (.invalidValue "session_status_update_request.auth" "must be a resolved auth method")
        else .ok () := by
    unfold UpdateRequest.validate
    by_cases negative : request.lease.number < 0
    · simp only [negative, if_true]
      rfl
    · by_cases unresolved : (!request.auth.isResolved) = true
      · simp only [negative, unresolved, if_true, if_false]
        rfl
      · simp only [negative, unresolved, if_false]
        rfl
  rw [steps, current]
  have version : checkVersion contractVersion = .ok () := rfl
  rw [version]
  cases request.header.validate with
  | error violation => simp [Except.bind]
  | ok _ =>
    simp only [Except.bind]
    split
    · rename_i negative
      simp only [reduceCtorEq, true_and, false_iff, not_and]
      omega
    · rename_i nonnegative
      cases request.auth.isResolved
      · simp
      · simp only [Bool.not_true, Bool.false_eq_true, if_false, true_and, and_true, true_iff]
        omega

theorem UpdateRequest.ofFields_eq (header : Header) (caller : Method) (auth : AuthTag) (lease : LeaseId)
    (ttl : Ttl) : UpdateRequest.ofFields header caller auth lease ttl =
      ({ header, caller, auth, lease, ttl } : UpdateRequest).validate.bind
        fun _ => .ok { header, caller, auth, lease, ttl } := rfl

theorem UpdateRequest.ofFields_eq_ok_iff {header : Header} {caller : Method} {auth : AuthTag}
    {lease : LeaseId} {ttl : Ttl} {request : UpdateRequest} :
    UpdateRequest.ofFields header caller auth lease ttl = .ok request ↔
      (header.validate = .ok () ∧ 0 ≤ lease.number ∧ auth.isResolved = true) ∧
        request = { header, caller, auth, lease, ttl } := by
  have valid := @UpdateRequest.validate_eq_ok_iff { header, caller, auth, lease, ttl } rfl
  rw [ofFields_eq, ← valid]
  cases ({ header, caller, auth, lease, ttl } : UpdateRequest).validate with
  | error violation => simp [Except.bind]
  | ok _ => simp [Except.bind, eq_comm]

end VoterSession
