import VoterSession.Service.Client
import VoterSession.Text.Character
set_option autoImplicit false

/-!
Statuses of remote calls. A service turns its errors into statuses, and a client turns statuses into
the errors that a front end sees.
-/
namespace VoterSession.Wire

/-- The codes of remote calls, in the order of their numbers. -/
inductive StatusCode where
  | ok
  | cancelled
  | unknown
  | invalidArgument
  | deadlineExceeded
  | notFound
  | alreadyExists
  | permissionDenied
  | resourceExhausted
  | failedPrecondition
  | aborted
  | outOfRange
  | unimplemented
  | internal
  | unavailable
  | dataLoss
  | unauthenticated
deriving DecidableEq

namespace StatusCode

def all : List StatusCode :=
  [ok, cancelled, unknown, invalidArgument, deadlineExceeded, notFound, alreadyExists, permissionDenied,
    resourceExhausted, failedPrecondition, aborted, outOfRange, unimplemented, internal, unavailable,
    dataLoss, unauthenticated]

def number (code : StatusCode) : Nat := all.idxOf code

/-- The code with this number; a number without a code is unknown. -/
def ofNumber (n : Int) : StatusCode := if n < 0 then unknown else all.getD n.toNat unknown

def name : StatusCode → String
  | ok => "Ok"
  | cancelled => "Cancelled"
  | unknown => "Unknown"
  | invalidArgument => "InvalidArgument"
  | deadlineExceeded => "DeadlineExceeded"
  | notFound => "NotFound"
  | alreadyExists => "AlreadyExists"
  | permissionDenied => "PermissionDenied"
  | resourceExhausted => "ResourceExhausted"
  | failedPrecondition => "FailedPrecondition"
  | aborted => "Aborted"
  | outOfRange => "OutOfRange"
  | unimplemented => "Unimplemented"
  | internal => "Internal"
  | unavailable => "Unavailable"
  | dataLoss => "DataLoss"
  | unauthenticated => "Unauthenticated"

end StatusCode

structure Status where
  code : StatusCode
  message : String
deriving DecidableEq

def Status.ofService (failure : ServiceError) : Status where
  code := match failure with
    | .outsideWindow _ => .unavailable
    | .invalidRequest _ => .invalidArgument
    | .repo (.corrupt ..) => .dataLoss
    | .repo (.store _ (.timeout _)) => .deadlineExceeded
    | .repo (.store ..) => .unavailable
  message := failure.message

/-- The error that a front end sees for a status. A call that was cancelled because it ran out of time
is a timeout; only the message tells. -/
def Status.clientError (status : Status) : ClientError :=
  match status.code with
  | .invalidArgument => .invalidRequest status.message
  | .deadlineExceeded => .timeout status.message
  | .cancelled =>
    if Text.contains (Text.lowered status.message).toList "timeout".toList then .timeout status.message
    else .unavailable status.message
  | .unavailable => .unavailable status.message
  | .dataLoss => .corruptRecord status.message
  | code => .internal (code.name ++ ": " ++ status.message)

end VoterSession.Wire
