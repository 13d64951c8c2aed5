import VoterSession.Session.Request
import VoterSession.Text.Quoted
import VoterSession.Wire.Message
import VoterSession.Wire.Status
set_option autoImplicit false

/-!
Between the messages as they travel and the requests and answers of the service. Reading a message
checks everything; the first thing that is wrong is reported, in the order of the fields, and the
rules of the whole request come last.
-/
namespace VoterSession.Wire

inductive ConversionError where
  | missingHeader
  | unknownCaller (text : String)
  | unknownAuth (text : String)
  | contract (violation : Violation)
deriving DecidableEq

namespace ConversionError

def message : ConversionError → String
  | missingHeader => "header is missing"
  | unknownCaller text => "unknown caller " ++ Text.quoted text
  | unknownAuth text => "unknown auth method " ++ Text.quoted text
  | contract violation => violation.message

def status (failure : ConversionError) : Status := ⟨.invalidArgument, failure.message⟩

end ConversionError

def checked {α : Type} (result : Except Violation α) : Except ConversionError α :=
  result.mapError .contract

def callerOfText (s : String) : Except ConversionError (Option Method) :=
  if s = "" then .ok none
  else match Method.ofName? s with
    | some method => .ok (some method)
    | none => .error (.unknownCaller s)

def requiredCaller (s : String) : Except ConversionError Method := do
  match ← callerOfText s with
  | some method => return method
  | none => throw (.unknownCaller "")

def authOfText (s : String) : Except ConversionError AuthTag :=
  match AuthTag.ofName? s with
  | some tag => .ok tag
  | none => .error (.unknownAuth s)

/-- The header of a message, with its session identifier checked and nothing else. -/
def HeaderMessage.unchecked (message : HeaderMessage) : Except Violation Header := do
  let sessionId ← SessionId.ofText message.sessionId
  return { sessionId, os := message.os, authMethod := message.authMethod
           authToken := message.authToken, dataToken := message.dataToken }

def HeaderMessage.toHeader (message : HeaderMessage) : Except Violation Header := do
  let header ← message.unchecked
  header.validate
  return header

def requiredHeader : Option HeaderMessage → Except ConversionError Header
  | none => .error .missingHeader
  | some message => checked message.toHeader

def HeaderMessage.ofHeader (header : Header) : HeaderMessage where
  sessionId := header.sessionId.text
  os := header.os
  authMethod := header.authMethod
  authToken := header.authToken
  dataToken := header.dataToken

namespace SessionMessage

def toReadRequest (message : SessionMessage) : Except ConversionError ReadRequest := do
  checked (ReadRequest.ofHeader (← requiredHeader message.header))

def ofReadRequest (request : ReadRequest) : SessionMessage where
  header := some (.ofHeader request.header)

def toDeleteRequest (message : SessionMessage) : Except ConversionError DeleteRequest := do
  checked (DeleteRequest.ofHeader (← requiredHeader message.header))

def ofDeleteRequest (request : DeleteRequest) : SessionMessage where
  header := some (.ofHeader request.header)

end SessionMessage

namespace UpdateMessage

def toRequest (message : UpdateMessage) : Except ConversionError UpdateRequest := do
  let header ← requiredHeader message.header
  let caller ← requiredCaller message.caller
  let auth ← authOfText message.auth
  let lease ← checked (LeaseId.ofText message.lease)
  let ttl ← checked (Ttl.ofText message.ttl)
  checked (UpdateRequest.ofFields header caller auth lease ttl)

def ofRequest (request : UpdateRequest) : UpdateMessage where
  header := some (.ofHeader request.header)
  caller := request.caller.name
  auth := request.auth.name
  lease := request.lease.text
  ttl := request.ttl.text

end UpdateMessage

namespace RecordMessage

def toResponse (message : RecordMessage) : Except ConversionError ReadResponse := do
  let header ← requiredHeader message.header
  let caller ← callerOfText message.caller
  let auth ← authOfText message.auth
  let lease ← checked (LeaseId.ofText message.lease)
  checked (ReadResponse.ofRecord header { caller, auth, lease })

def ofResponse (response : ReadResponse) : RecordMessage where
  header := some (.ofHeader response.header)
  caller := response.record.callerName
  auth := response.record.auth.name
  lease := response.record.lease.text

end RecordMessage

namespace AckMessage

def toAck (message : AckMessage) : Ack := { ok := message.ok }

def ofAck (ack : Ack) : AckMessage := { ok := ack.ok }

end AckMessage

end VoterSession.Wire
