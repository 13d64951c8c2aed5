import VoterSession.Service.Window
import VoterSession.Session.Request
import VoterSession.Store.Sessions
set_option autoImplicit false

/-!
The session status service: the one source of truth that every front end asks. It checks the window,
then the request, and then makes one call to the store.
-/
namespace VoterSession

inductive ServiceError where
  | outsideWindow (now : Nat)
  | invalidRequest (violation : Violation)
  | repo (source : RepoError)
deriving DecidableEq

def ServiceError.message : ServiceError → String
  | outsideWindow now => "session status service is outside its service window at " ++ toString now
  | invalidRequest violation => "invalid session status request: " ++ violation.message
  | repo source => source.message

/-- A service over a store, with the clock that its window is checked against. -/
structure StatusService (m : Type → Type) where
  store : StoreClient m
  window : ServiceWindow
  clock : m Nat

def StatusCall.validate {α : Type} : StatusCall α → Except Violation Unit
  | read request => request.validate
  | update request => request.validate
  | delete request => request.validate

namespace StatusService

variable {m : Type → Type} [Monad m] {α : Type}

/-- The call without its checks. -/
def perform (service : StatusService m) : StatusCall α → m (Except ServiceError α)
  | .read request => do
    match ← Sessions.read service.store request.header.sessionId with
    | .ok record => return (ReadResponse.ofRecord request.header record).mapError .invalidRequest
    | .error source => return .error (.repo source)
  | .update request => do
    match ← Sessions.update service.store request.header.sessionId request.caller request.auth
        request.lease request.ttl with
    | .ok () => return .ok .done
    | .error source => return .error (.repo source)
  | .delete request => do
    match ← Sessions.delete service.store request.header.sessionId with
    | .ok () => return .ok .done
    | .error source => return .error (.repo source)

def serve (service : StatusService m) (call : StatusCall α) : m (Except ServiceError α) := do
  let now ← service.clock
  if service.window.contains now then
    match call.validate with
    | .ok () => service.perform call
    | .error violation => return .error (.invalidRequest violation)
  else return .error (.outsideWindow now)

end StatusService

end VoterSession
