import VoterSession.Service.Status
set_option autoImplicit false

/-!
The session status as a front end sees it: the same three calls, with errors that no longer tell which
layer failed. A service in the same process is one such client.
-/
namespace VoterSession

inductive ClientError where
  | invalidRequest (text : String)
  | timeout (text : String)
  | unavailable (text : String)
  | corruptRecord (text : String)
  | internal (text : String)
deriving DecidableEq

namespace ClientError

def message : ClientError → String
  | invalidRequest text => "invalid session status request: " ++ text
  | timeout text => "session status call timed out: " ++ text
  | unavailable text => "session status unavailable: " ++ text
  | corruptRecord text => "corrupt session record: " ++ text
  | internal text => "session status call failed: " ++ text

def ofService (failure : ServiceError) : ClientError :=
  match failure with
  | .invalidRequest violation => invalidRequest violation.message
  | .outsideWindow _ => unavailable failure.message
  | .repo (.corrupt ..) => corruptRecord failure.message
  | .repo (.store _ (.timeout _)) => timeout failure.message
  | .repo (.store ..) => unavailable failure.message

end ClientError

/-- Access to the session status from a computation in `m`. -/
structure StatusClient (m : Type → Type) where
  call : {α : Type} → StatusCall α → m (Except ClientError α)

def StatusService.client {m : Type → Type} [Monad m] (service : StatusService m) : StatusClient m where
  call request := do return (← service.serve request).mapError ClientError.ofService

end VoterSession
