import VoterSession.Wire.Conversion
set_option autoImplicit false

/-!
Requests as they are filled in, before anything about them is checked, and the requests that they
become. Filling in a request checks the session identifier first and the lifetime after it; the rules
of the whole request are left to whoever answers it.
-/
namespace VoterSession.Wire

inductive Draft where
  | read (version : Nat) (header : HeaderMessage)
  | update (version : Nat) (header : HeaderMessage) (caller : Method) (auth : AuthTag) (lease : LeaseId)
    (ttl : Nat)
  | delete (version : Nat) (header : HeaderMessage)
deriving DecidableEq

inductive Request where
  | read (request : ReadRequest)
  | update (request : UpdateRequest)
  | delete (request : DeleteRequest)
deriving DecidableEq

inductive Answer where
  | record (response : ReadResponse)
  | ack (ack : Ack)
deriving DecidableEq

def Draft.request : Draft → Except Violation Request
  | read version header => do return .read { version, header := ← header.unchecked }
  | update version header caller auth lease ttl => do
    let header ← header.unchecked
    let ttl ← Ttl.ofSeconds ttl
    return .update { version, header, caller, auth, lease, ttl }
  | delete version header => do return .delete { version, header := ← header.unchecked }

namespace Request

def validate : Request → Except Violation Unit
  | read request => request.validate
  | update request => request.validate
  | delete request => request.validate

/-- Hands the request to whoever answers calls. -/
def dispatch {m : Type → Type} [Monad m] {ε : Type} (answer : {α : Type} → StatusCall α → m (Except ε α)) :
    Request → m (Except ε Answer)
  | read request => do return (← answer (.read request)).map .record
  | update request => do return (← answer (.update request)).map .ack
  | delete request => do return (← answer (.delete request)).map .ack

end Request

def Draft.validRequest (draft : Draft) : Except Violation Request := do
  let request ← draft.request
  request.validate
  return request

def validResponse (version : Nat) (header : HeaderMessage) (record : SessionRecord) :
    Except Violation ReadResponse := do
  let response : ReadResponse := { version, header := ← header.unchecked, record }
  response.validate
  return response

inductive WireRequest where
  | read (message : SessionMessage)
  | update (message : UpdateMessage)
  | delete (message : SessionMessage)
deriving DecidableEq

inductive WireAnswer where
  | record (message : RecordMessage)
  | ack (message : AckMessage)
deriving DecidableEq

def WireRequest.dispatch {m : Type → Type} [Monad m]
    (answer : {α : Type} → WireCall α → m (Except Status α)) : WireRequest → m (Except Status WireAnswer)
  | read message => do return (← answer (.read message)).map .record
  | update message => do return (← answer (.update message)).map .ack
  | delete message => do return (← answer (.delete message)).map .ack

end VoterSession.Wire
