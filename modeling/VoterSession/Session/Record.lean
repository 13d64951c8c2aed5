import VoterSession.Session.Auth
import VoterSession.Session.Method
import VoterSession.Session.Lease
set_option autoImplicit false

/-!
What the server knows about a session: the method that last advanced it, the tag it is bound to, and
the lease that keeps it alive.
-/
namespace VoterSession

/-- The state of a session; the default value stands for a session without a record. -/
structure SessionRecord where
  caller : Option Method := none
  auth : AuthTag := .unresolved
  lease : LeaseId := .none
deriving DecidableEq

namespace SessionRecord

def empty : SessionRecord := {}

/-- Whether the session never advanced; the lease does not matter. -/
def isEmpty (record : SessionRecord) : Bool := record.caller.isNone && !record.auth.isResolved

def callerName (record : SessionRecord) : String := Method.callerName record.caller

end SessionRecord

end VoterSession
