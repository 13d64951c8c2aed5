import VoterSession.Proofs.Session.Header
import VoterSession.Proofs.Session.Spelling
import VoterSession.Proofs.Wire.Conversion
set_option autoImplicit false

/-!
Which messages are read, and as what. Every message that is read says the same as one canonical message, which
differs from it at most in how a lease and a lifetime are spelled. Main statements: the conditions
`toReadRequest_eq_ok_iff`, `toDeleteRequest_eq_ok_iff`, `toRequest_eq_ok_iff` and `toResponse_eq_ok_iff`, and
`messages_normalised`.
-/
namespace VoterSession.Wire

/-! ### The parts of a message -/

theorem checked_eq_ok_iff {α : Type} {result : Except Violation α} {a : α} :
    checked result = .ok a ↔ result = .ok a := by
  cases result with
  | error violation => exact ⟨nofun, nofun⟩
  | ok value => exact ⟨fun h => Except.ok.inj h ▸ rfl, fun h => Except.ok.inj h ▸ rfl⟩

theorem HeaderMessage.toHeader_eq_ok_iff {message : HeaderMessage} {header : Header} :
    message.toHeader = .ok header ↔ message = ofHeader header ∧ header.validate = .ok () := by
  constructor
  · intro h
    obtain ⟨read, hread, hchecked⟩ := bind_eq_ok_iff.1 h
    obtain ⟨valid, same⟩ := then_eq_ok_iff.1 hchecked
    cases same
    obtain ⟨id, hid, hunchecked⟩ := bind_eq_ok_iff.1 hread
    cases hunchecked
    refine ⟨?_, valid⟩
    rw [ofHeader, ← SessionId.ofText_eq_ok_iff.1 hid]
  · rintro ⟨rfl, valid⟩
    exact toHeader_ofHeader valid

theorem requiredHeader_eq_ok_iff {message : Option HeaderMessage} {header : Header} :
    requiredHeader message = .ok header ↔ message = some (.ofHeader header) ∧ header.validate = .ok () := by
  cases message with
  | none => simp [requiredHeader]
  | some message => rw [requiredHeader, checked_eq_ok_iff, HeaderMessage.toHeader_eq_ok_iff, Option.some.injEq]

theorem callerOfText_eq_ok_iff {text : String} {caller : Option Method} :
    callerOfText text = .ok caller ↔ text = Method.callerName caller := by
  constructor
  · intro h
    rw [callerOfText] at h
    split at h
    · cases h
      assumption
    · cases named : Method.ofName? text <;> rw [named] at h <;> cases h
      exact Method.ofName?_eq_some_iff.1 named
  · rintro rfl
    exact callerOfText_callerName caller

theorem requiredCaller_eq_ok_iff {text : String} {method : Method} :
    requiredCaller text = .ok method ↔ text = method.name := by
  constructor
  · intro h
    obtain ⟨caller, hcaller, hrequired⟩ := bind_eq_ok_iff.1 h
    cases caller <;> cases hrequired
    exact callerOfText_eq_ok_iff.1 hcaller
  · rintro rfl
    exact requiredCaller_name method

theorem authOfText_eq_ok_iff {text : String} {tag : AuthTag} : authOfText text = .ok tag ↔ text = tag.name := by
  rw [← AuthTag.ofName?_eq_some_iff, authOfText]
  cases AuthTag.ofName? text <;> simp

/-! ### Messages -/

theorem SessionMessage.toReadRequest_eq_ok_iff {message : SessionMessage} {request : ReadRequest} :
    message.toReadRequest = .ok request ↔
      message = ofReadRequest request ∧ ReadRequest.ofHeader request.header = .ok request := by
  constructor
  · intro h
    obtain ⟨header, hheader, hbuilt⟩ := bind_eq_ok_iff.1 h
    obtain ⟨named, valid⟩ := requiredHeader_eq_ok_iff.1 hheader
    have built := checked_eq_ok_iff.1 hbuilt
    obtain ⟨_, rfl⟩ := ReadRequest.ofHeader_eq_ok_iff.1 built
    exact ⟨by rw [ofReadRequest, ← named], built⟩
  · rintro ⟨rfl, built⟩
    exact toReadRequest_ofReadRequest built

theorem SessionMessage.toDeleteRequest_eq_ok_iff {message : SessionMessage} {request : DeleteRequest} :
    message.toDeleteRequest = .ok request ↔
      message = ofDeleteRequest request ∧ DeleteRequest.ofHeader request.header = .ok request := by
  constructor
  · intro h
    obtain ⟨header, hheader, hbuilt⟩ := bind_eq_ok_iff.1 h
    obtain ⟨named, valid⟩ := requiredHeader_eq_ok_iff.1 hheader
    have built := checked_eq_ok_iff.1 hbuilt
    obtain ⟨_, rfl⟩ := DeleteRequest.ofHeader_eq_ok_iff.1 built
    exact ⟨by rw [ofDeleteRequest, ← named], built⟩
  · rintro ⟨rfl, built⟩
    exact toDeleteRequest_ofDeleteRequest built

theorem UpdateMessage.toRequest_eq_ok_iff {message : UpdateMessage} {request : UpdateRequest} :
    message.toRequest = .ok request ↔
      message = { ofRequest request with lease := message.lease, ttl := message.ttl } ∧
      LeaseId.Spelled message.lease request.lease ∧ Ttl.Spelled message.ttl request.ttl ∧
      UpdateRequest.ofFields request.header request.caller request.auth request.lease request.ttl =
        .ok request := by
  constructor
  · intro h
    obtain ⟨header, hheader, h⟩ := bind_eq_ok_iff.1 h
    obtain ⟨caller, hcaller, h⟩ := bind_eq_ok_iff.1 h
    obtain ⟨auth, hauth, h⟩ := bind_eq_ok_iff.1 h
    obtain ⟨lease, hlease, h⟩ := bind_eq_ok_iff.1 h
    obtain ⟨ttl, httl, hbuilt⟩ := bind_eq_ok_iff.1 h
    have built := checked_eq_ok_iff.1 hbuilt
    obtain ⟨_, rfl⟩ := UpdateRequest.ofFields_eq_ok_iff.1 built
    refine ⟨?_, LeaseId.ofText_eq_ok_iff.1 (checked_eq_ok_iff.1 hlease),
      Ttl.ofText_eq_ok_iff.1 (checked_eq_ok_iff.1 httl), built⟩
    rw [ofRequest, ← (requiredHeader_eq_ok_iff.1 hheader).1, ← requiredCaller_eq_ok_iff.1 hcaller,
      ← authOfText_eq_ok_iff.1 hauth]
  · rintro ⟨same, lease, ttl, built⟩
    obtain ⟨valid, _⟩ := (UpdateRequest.ofFields_eq_ok_iff.1 built).1
    have hlease := checked_eq_ok_iff.2 (LeaseId.ofText_eq_ok_iff.2 lease)
    have httl := checked_eq_ok_iff.2 (Ttl.ofText_eq_ok_iff.2 ttl)
    have hheader : requiredHeader message.header = .ok request.header := by
      rw [same]
      exact requiredHeader_ofHeader valid
    have hcaller : requiredCaller message.caller = .ok request.caller := by
      rw [same]
      exact requiredCaller_name request.caller
    have hauth : authOfText message.auth = .ok request.auth := by
      rw [same]
      exact authOfText_name request.auth
    simp only [toRequest, hheader, hcaller, hauth, hlease, httl, bind, Except.bind, built]
    rfl

theorem RecordMessage.toResponse_eq_ok_iff {message : RecordMessage} {response : ReadResponse} :
    message.toResponse = .ok response ↔
      message = { ofResponse response with lease := message.lease } ∧
      LeaseId.Spelled message.lease response.record.lease ∧
      ReadResponse.ofRecord response.header response.record = .ok response := by
  constructor
  · intro h
    obtain ⟨header, hheader, h⟩ := bind_eq_ok_iff.1 h
    obtain ⟨caller, hcaller, h⟩ := bind_eq_ok_iff.1 h
    obtain ⟨auth, hauth, h⟩ := bind_eq_ok_iff.1 h
    obtain ⟨lease, hlease, hbuilt⟩ := bind_eq_ok_iff.1 h
    have built := checked_eq_ok_iff.1 hbuilt
    obtain ⟨named, valid⟩ := requiredHeader_eq_ok_iff.1 hheader
    rw [ReadResponse.ofRecord_of_header valid] at built
    cases built
    refine ⟨?_, LeaseId.ofText_eq_ok_iff.1 (checked_eq_ok_iff.1 hlease), ReadResponse.ofRecord_of_header valid _⟩
    rw [ofResponse, ← named, SessionRecord.callerName, ← callerOfText_eq_ok_iff.1 hcaller,
      ← authOfText_eq_ok_iff.1 hauth]
  · rintro ⟨same, lease, built⟩
    have valid := (ReadResponse.ofRecord_eq_ok_iff.1 built).1
    have hlease := checked_eq_ok_iff.2 (LeaseId.ofText_eq_ok_iff.2 lease)
    have hheader : requiredHeader message.header = .ok response.header := by
      rw [same]
      exact requiredHeader_ofHeader valid
    have hcaller : callerOfText message.caller = .ok response.record.caller := by
      rw [same]
      exact callerOfText_callerName response.record.caller
    have hauth : authOfText message.auth = .ok response.record.auth := by
      rw [same]
      exact authOfText_name response.record.auth
    simp only [toResponse, hheader, hcaller, hauth, hlease, bind, Except.bind, built]
    rfl

/-! ### Normal forms -/

theorem SessionMessage.read_normalised {message : SessionMessage} {request : ReadRequest}
    (h : message.toReadRequest = .ok request) :
    request.validate = .ok () ∧ (ofReadRequest request).toReadRequest = .ok request ∧
      ofReadRequest request = message := by
  obtain ⟨same, built⟩ := toReadRequest_eq_ok_iff.1 h
  obtain ⟨valid, named⟩ := ReadRequest.ofHeader_eq_ok_iff.1 built
  refine ⟨?_, toReadRequest_ofReadRequest built, same.symm⟩
  rw [named]
  exact ReadRequest.validate_of_header valid

theorem SessionMessage.delete_normalised {message : SessionMessage} {request : DeleteRequest}
    (h : message.toDeleteRequest = .ok request) :
    request.validate = .ok () ∧ (ofDeleteRequest request).toDeleteRequest = .ok request ∧
      ofDeleteRequest request = message := by
  obtain ⟨same, built⟩ := toDeleteRequest_eq_ok_iff.1 h
  obtain ⟨valid, named⟩ := DeleteRequest.ofHeader_eq_ok_iff.1 built
  refine ⟨?_, toDeleteRequest_ofDeleteRequest built, same.symm⟩
  rw [named]
  exact DeleteRequest.validate_of_header valid

/-- The other messages that are read as the same request spell its lease and its lifetime in another way. -/
theorem UpdateMessage.normalised {message : UpdateMessage} {request : UpdateRequest}
    (h : message.toRequest = .ok request) :
    request.validate = .ok () ∧ (ofRequest request).toRequest = .ok request ∧
      ofRequest request = { message with lease := request.lease.text, ttl := request.ttl.text } ∧
      ∀ lease ttl, ({ message with lease, ttl } : UpdateMessage).toRequest = .ok request ↔
        LeaseId.Spelled lease request.lease ∧ Ttl.Spelled ttl request.ttl := by
  obtain ⟨same, lease, _, built⟩ := toRequest_eq_ok_iff.1 h
  obtain ⟨valid, named⟩ := UpdateRequest.ofFields_eq_ok_iff.1 built
  have current : request.version = contractVersion := by rw [named]
  refine ⟨(UpdateRequest.validate_eq_ok_iff current).2 valid, toRequest_ofRequest built lease.word.2, ?_, ?_⟩
  · rw [same]
    rfl
  · intro lease ttl
    rw [toRequest_eq_ok_iff]
    constructor
    · rintro ⟨_, spelledLease, spelledTtl, _⟩
      exact ⟨spelledLease, spelledTtl⟩
    · rintro ⟨spelledLease, spelledTtl⟩
      refine ⟨?_, spelledLease, spelledTtl, built⟩
      rw [same]

theorem RecordMessage.normalised {message : RecordMessage} {response : ReadResponse}
    (h : message.toResponse = .ok response) :
    response.validate = .ok () ∧ (ofResponse response).toResponse = .ok response ∧
      ofResponse response = { message with lease := response.record.lease.text } ∧
      ∀ lease, ({ message with lease } : RecordMessage).toResponse = .ok response ↔
        LeaseId.Spelled lease response.record.lease := by
  obtain ⟨same, lease, built⟩ := toResponse_eq_ok_iff.1 h
  obtain ⟨valid, named⟩ := ReadResponse.ofRecord_eq_ok_iff.1 built
  refine ⟨?_, ?_, ?_, ?_⟩
  · rw [named]
    exact ReadResponse.validate_of_header valid response.record
  · rw [named]
    exact toResponse_ofResponse valid lease.counted lease.word.2
  · rw [same]
    rfl
  · intro lease
    rw [toResponse_eq_ok_iff]
    constructor
    · rintro ⟨_, spelled, _⟩
      exact spelled
    · intro spelled
      refine ⟨?_, spelled, built⟩
      rw [same]

theorem RecordMessage.toResponse_of_neg {header : Header} {record : SessionRecord}
    (valid : header.validate = .ok ()) (word : record.lease.Word) (negative : record.lease.number < 0) :
    (ofResponse { header, record }).toResponse =
      .error (.contract (.invalidValue "lease" "must be >= 0")) := by
  have refused : checked (LeaseId.ofText record.lease.text) =
      .error (.contract (.invalidValue "lease" "must be >= 0")) := by
    rw [LeaseId.ofText_text_of_neg word negative]
    rfl
  simp only [toResponse, ofResponse, requiredHeader_ofHeader valid, SessionRecord.callerName,
    callerOfText_callerName, authOfText_name, refused, bind, Except.bind]

/-- What the constructors build crosses the wire, except an answer whose lease is negative. What is read from a
message passes its check and has a message of its own, and any message that is read as the same spells a lease or
a lifetime in another way: with blanks around the number, a plus or zeros before it, and no lease as blanks. -/
theorem messages_normalised :
    (∀ header request, ReadRequest.ofHeader header = .ok request →
      (SessionMessage.ofReadRequest request).toReadRequest = .ok request) ∧
    (∀ header request, DeleteRequest.ofHeader header = .ok request →
      (SessionMessage.ofDeleteRequest request).toDeleteRequest = .ok request) ∧
    (∀ header caller auth lease ttl request, LeaseId.Word lease →
      UpdateRequest.ofFields header caller auth lease ttl = .ok request →
      (UpdateMessage.ofRequest request).toRequest = .ok request) ∧
    (∀ header record response, LeaseId.Word record.lease → ReadResponse.ofRecord header record = .ok response →
      ((RecordMessage.ofResponse response).toResponse = .ok response ↔ 0 ≤ record.lease.number) ∧
      (record.lease.number < 0 → (RecordMessage.ofResponse response).toResponse =
        .error (.contract (.invalidValue "lease" "must be >= 0")))) ∧
    (∀ message request, SessionMessage.toReadRequest message = .ok request →
      request.validate = .ok () ∧ (SessionMessage.ofReadRequest request).toReadRequest = .ok request ∧
        SessionMessage.ofReadRequest request = message) ∧
    (∀ message request, SessionMessage.toDeleteRequest message = .ok request →
      request.validate = .ok () ∧ (SessionMessage.ofDeleteRequest request).toDeleteRequest = .ok request ∧
        SessionMessage.ofDeleteRequest request = message) ∧
    (∀ message request, UpdateMessage.toRequest message = .ok request →
      request.validate = .ok () ∧ (UpdateMessage.ofRequest request).toRequest = .ok request ∧
        UpdateMessage.ofRequest request =
          { message with lease := request.lease.text, ttl := request.ttl.text } ∧
        ∀ lease ttl, ({ message with lease, ttl } : UpdateMessage).toRequest = .ok request ↔
          LeaseId.Spelled lease request.lease ∧ Ttl.Spelled ttl request.ttl) ∧
    (∀ message response, RecordMessage.toResponse message = .ok response →
      response.validate = .ok () ∧ (RecordMessage.ofResponse response).toResponse = .ok response ∧
        RecordMessage.ofResponse response = { message with lease := response.record.lease.text } ∧
        ∀ lease, ({ message with lease } : RecordMessage).toResponse = .ok response ↔
          LeaseId.Spelled lease response.record.lease) := by
  refine ⟨?_, ?_, ?_, ?_, fun _ _ => SessionMessage.read_normalised, fun _ _ => SessionMessage.delete_normalised,
    fun _ _ => UpdateMessage.normalised, fun _ _ => RecordMessage.normalised⟩
  · intro header request built
    obtain ⟨_, rfl⟩ := ReadRequest.ofHeader_eq_ok_iff.1 built
    exact SessionMessage.toReadRequest_ofReadRequest built
  · intro header request built
    obtain ⟨_, rfl⟩ := DeleteRequest.ofHeader_eq_ok_iff.1 built
    exact SessionMessage.toDeleteRequest_ofDeleteRequest built
  · intro header caller auth lease ttl request word built
    obtain ⟨_, rfl⟩ := UpdateRequest.ofFields_eq_ok_iff.1 built
    exact UpdateMessage.toRequest_ofRequest built word.2
  · intro header record response word built
    obtain ⟨valid, rfl⟩ := ReadResponse.ofRecord_eq_ok_iff.1 built
    refine ⟨⟨?_, ?_⟩, RecordMessage.toResponse_of_neg valid word⟩
    · intro read
      obtain ⟨_, spelled, _⟩ := RecordMessage.toResponse_eq_ok_iff.1 read
      exact spelled.counted
    · intro counted
      exact RecordMessage.toResponse_ofResponse valid counted word.2

/-! ### A signature with spaced-out numbers -/

def signer : Header := { sessionId := ⟨"T-45", by decide, by decide, by decide⟩, os := "linux" }

def signing : UpdateRequest :=
  { header := signer, caller := .sign, auth := .mobileId, lease := ⟨7⟩, ttl := { seconds := 45 } }

def spacedOut : UpdateMessage :=
  { UpdateMessage.ofRequest signing with lease := " +007\u3000", ttl := "\t045\n" }

def overdrawn : SessionRecord := { caller := some .sign, auth := .mobileId, lease := ⟨-7⟩ }

theorem spaced_numbers_normalised :
    (ReadRequest.ofHeader signer = .ok { header := signer } ∧
      (SessionMessage.ofReadRequest { header := signer }).toReadRequest = .ok { header := signer } ∧
      ({ header := signer } : ReadRequest).validate = .ok ()) ∧
    (DeleteRequest.ofHeader signer = .ok { header := signer } ∧
      (SessionMessage.ofDeleteRequest { header := signer }).toDeleteRequest = .ok { header := signer } ∧
      ({ header := signer } : DeleteRequest).validate = .ok ()) ∧
    (spacedOut.toRequest = .ok signing ∧ signing.validate = .ok () ∧
      UpdateMessage.ofRequest signing = { spacedOut with lease := "7", ttl := "45" } ∧
      (UpdateMessage.ofRequest signing).toRequest = .ok signing) ∧
    (ReadResponse.ofRecord signer overdrawn = .ok { header := signer, record := overdrawn } ∧
      (RecordMessage.ofResponse { header := signer, record := overdrawn }).toResponse =
        .error (.contract (.invalidValue "lease" "must be >= 0"))) ∧
    ((RecordMessage.ofResponse { header := signer, record := .empty }).toResponse =
        .ok { header := signer, record := .empty } ∧
      ({ RecordMessage.ofResponse { header := signer, record := .empty } with lease := "\t " }).toResponse =
        .ok { header := signer, record := .empty }) := by
  obtain ⟨reads, deletes, updates, responses, readMessages, deleteMessages, updateMessages, recordMessages⟩ :=
    messages_normalised
  have valid : signer.validate = .ok () := rfl
  have readBuilt : ReadRequest.ofHeader signer = .ok { header := signer } := rfl
  have deleteBuilt : DeleteRequest.ofHeader signer = .ok { header := signer } := rfl
  have readCrosses := reads signer _ readBuilt
  have deleteCrosses := deletes signer _ deleteBuilt
  have updateCrosses := updates signer .sign .mobileId ⟨7⟩ { seconds := 45 } signing (by decide) rfl
  have negative : ReadResponse.ofRecord signer overdrawn = .ok { header := signer, record := overdrawn } := rfl
  have refused := (responses signer overdrawn _ (by decide) negative).2 (by decide)
  have emptyBuilt : ReadResponse.ofRecord signer .empty = .ok { header := signer, record := .empty } := rfl
  have emptyCrosses := (responses signer .empty _ (by decide) emptyBuilt).1.2 (by decide)
  have read : spacedOut.toRequest = .ok signing := by
    refine UpdateMessage.toRequest_eq_ok_iff.2 ⟨rfl, ?_, ?_, rfl⟩
    · have padded : Text.Padded "+007".toList spacedOut.lease.toList :=
        ⟨[' '], ['\u3000'], rfl, List.all_eq_true.1 rfl, List.all_eq_true.1 rfl⟩
      exact .number padded (.natural (.plus ⟨2, rfl⟩)) (by decide) (by decide)
    · exact ⟨"045".toList, ⟨['\t'], ['\n'], rfl, List.all_eq_true.1 rfl, List.all_eq_true.1 rfl⟩, .plain ⟨1, rfl⟩⟩
  obtain ⟨passes, _, canonical, _⟩ := updateMessages spacedOut signing read
  obtain ⟨_, _, _, spellings⟩ := recordMessages _ _ emptyCrosses
  exact ⟨⟨readBuilt, readCrosses, (readMessages _ _ readCrosses).1⟩,
    ⟨deleteBuilt, deleteCrosses, (deleteMessages _ _ deleteCrosses).1⟩,
    ⟨read, passes, canonical, updateCrosses⟩, ⟨negative, refused⟩,
    ⟨emptyCrosses, (spellings "\t ").2 (.blank (List.all_eq_true.1 rfl))⟩⟩

end VoterSession.Wire
