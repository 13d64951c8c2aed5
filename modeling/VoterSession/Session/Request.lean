import VoterSession.Session.Header
import VoterSession.Session.Record
set_option autoImplicit false

/-!
The calls that front ends make to the session status service, their answers, and the rules each must
meet. Every message names the version of this contract. `StatusCall` gathers the three calls with the
types of their answers, so that a service, a remote peer and a script are all handlers of one kind.
-/
namespace VoterSession

def contractVersion : Nat := 1

def checkVersion (version : Nat) : Except Violation Unit :=
  if version = contractVersion then .ok ()
  else .error (.invalidValue "schema_version" "must match SESSIONSTATUS_CONTRACT_VERSION")

structure ReadRequest where
  version : Nat := contractVersion
  header : Header
deriving DecidableEq

structure ReadResponse where
  version : Nat := contractVersion
  header : Header
  record : SessionRecord
deriving DecidableEq

/-- Replaces the whole record of a session. Without a lease it asks for a new one of `ttl`. -/
structure UpdateRequest where
  version : Nat := contractVersion
  header : Header
  caller : Method
  auth : AuthTag
  lease : LeaseId
  ttl : Ttl
deriving DecidableEq

structure DeleteRequest where
  version : Nat := contractVersion
  header : Header
deriving DecidableEq

structure Ack where
  version : Nat := contractVersion
  ok : Bool
deriving DecidableEq

namespace ReadRequest

def validate (request : ReadRequest) : Except Violation Unit := do
  checkVersion request.version
  request.header.validate

def ofHeader (header : Header) : Except Violation ReadRequest := do
  let request : ReadRequest := { header }
  request.validate
  return request

end ReadRequest

namespace ReadResponse

def validate (response : ReadResponse) : Except Violation Unit := do
  checkVersion response.version
  response.header.validate

def ofRecord (header : Header) (record : SessionRecord) : Except Violation ReadResponse := do
  let response : ReadResponse := { header, record }
  response.validate
  return response

end ReadResponse

namespace UpdateRequest

/-- A lease that is no negative number, and a tag that names a method. -/
def validate (request : UpdateRequest) : Except Violation Unit := do
  checkVersion request.version
  request.header.validate
  if request.lease.number < 0 then
    throw (.invalidValue "session_status_update_request.lease" "must be >= 0")
  if !request.auth.isResolved then
    throw (.invalidValue "session_status_update_request.auth" "must be a resolved auth method")

def ofFields (header : Header) (caller : Method) (auth : AuthTag) (lease : LeaseId) (ttl : Ttl) :
    Except Violation UpdateRequest := do
  let request : UpdateRequest := { header, caller, auth, lease, ttl }
  request.validate
  return request

end UpdateRequest

namespace DeleteRequest

def validate (request : DeleteRequest) : Except Violation Unit := do
  checkVersion request.version
  request.header.validate

def ofHeader (header : Header) : Except Violation DeleteRequest := do
  let request : DeleteRequest := { header }
  request.validate
  return request

end DeleteRequest

def Ack.done : Ack := { ok := true }

/-- The three calls, each with the type of its answer. -/
inductive StatusCall : Type → Type where
  | read (request : ReadRequest) : StatusCall ReadResponse
  | update (request : UpdateRequest) : StatusCall Ack
  | delete (request : DeleteRequest) : StatusCall Ack

inductive Endpoint where
  | read
  | update
  | delete
deriving DecidableEq

def Endpoint.name : Endpoint → String
  | .read => "RPC.SessionStatusRead"
  | .update => "RPC.SessionStatusUpdate"
  | .delete => "RPC.SessionStatusDelete"

def Endpoint.all : List Endpoint := [.read, .update, .delete]

end VoterSession
