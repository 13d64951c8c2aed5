import VoterSession.Service.Client
import VoterSession.Workflow.Transition
set_option autoImplicit false

/-!
Verification of one step: read the session, decide, and write at most once. The decision is data
between the two calls, so that what happens between them can be spoken about: `opening` is the read
that is sent, `judge` turns the record into a `Plan`, the plan's `write` is what is sent next, and
`conclude` reads the acknowledgement.
-/
namespace VoterSession

inductive AdvanceOutcome where
  | updated (ttl : Ttl)
  | deleted
deriving DecidableEq

structure AcceptedTransition where
  method : Method
  auth : AuthTag
  lease : LeaseId
  outcome : AdvanceOutcome
  reasonCode : Nat
deriving DecidableEq

inductive VerifyError where
  | rejected (rejection : Rejection)
  | status (source : ClientError)
  /-- The step was accepted, but whether the record advanced is not known. -/
  | notAcknowledged (method : Method) (source : Option ClientError)
deriving DecidableEq

/-- What a front end tells the voter's client; it shows nothing of the session. -/
inductive ClientFacing where
  | badRequest
  | internal
deriving DecidableEq

def ClientFacing.name : ClientFacing → String
  | badRequest => "BAD_REQUEST"
  | internal => "INTERNAL_SERVER_ERROR"

namespace VerifyError

def message : VerifyError → String
  | rejected rejection => rejection.message
  | status source => "session status lookup failed: " ++ source.message
  | notAcknowledged method _ =>
    method.name ++ " accepted but the session advance was not acknowledged"

def isRejection : VerifyError → Bool
  | rejected _ => true
  | _ => false

def clientFacing (failure : VerifyError) : ClientFacing :=
  if failure.isRejection then .badRequest else .internal

def invalidRequest (violation : Violation) : VerifyError :=
  status (.invalidRequest violation.message)

end VerifyError

inductive SessionWrite where
  | update (request : UpdateRequest)
  | delete (request : DeleteRequest)
deriving DecidableEq

def SessionWrite.send {m : Type → Type} (client : StatusClient m) :
    SessionWrite → m (Except ClientError Ack)
  | update request => client.call (.update request)
  | delete request => client.call (.delete request)

/-- An accepted step: the write to send, and what to report once it is acknowledged. -/
structure Plan where
  write : SessionWrite
  accepted : AcceptedTransition
deriving DecidableEq

def Plan.conclude (plan : Plan) : Except ClientError Ack → Except VerifyError AcceptedTransition
  | .ok ack => if ack.ok then .ok plan.accepted else .error (.notAcknowledged plan.accepted.method none)
  | .error source => .error (.notAcknowledged plan.accepted.method (some source))

structure Verifier where
  table : WorkflowTable
  ttls : StageTtls
deriving DecidableEq

namespace Verifier

def opening (header : Header) : Except VerifyError ReadRequest :=
  (ReadRequest.ofHeader header).mapError .invalidRequest

def plan (verifier : Verifier) (header : Header) (transition : Transition) : Except VerifyError Plan :=
  let report (outcome : AdvanceOutcome) : AcceptedTransition :=
    { method := transition.method, auth := transition.auth, lease := transition.lease, outcome
      reasonCode := transition.reasonCode }
  match transition.advance with
  | .update stage =>
    let ttl := verifier.ttls.ttl stage
    match UpdateRequest.ofFields header transition.method transition.auth transition.lease ttl with
    | .ok request => .ok { write := .update request, accepted := report (.updated ttl) }
    | .error violation => .error (.invalidRequest violation)
  | .delete =>
    match DeleteRequest.ofHeader header with
    | .ok request => .ok { write := .delete request, accepted := report .deleted }
    | .error violation => .error (.invalidRequest violation)

def judge (verifier : Verifier) (header : Header) (method : Method) (transport : Transport)
    (record : SessionRecord) : Except VerifyError Plan :=
  match verifier.table.evaluate method record transport with
  | .ok transition => verifier.plan header transition
  | .error rejection => .error (.rejected rejection)

def decision (verifier : Verifier) (header : Header) (method : Method) (transport : Transport) :
    Except ClientError ReadResponse → Except VerifyError Plan
  | .ok response => verifier.judge header method transport response.record
  | .error source => .error (.status source)

def verify {m : Type → Type} [Monad m] (verifier : Verifier) (client : StatusClient m) (header : Header)
    (method : Method) (transport : Transport) : m (Except VerifyError AcceptedTransition) := do
  match opening header with
  | .error failure => return .error failure
  | .ok request =>
    let answer ← client.call (.read request)
    match verifier.decision header method transport answer with
    | .error failure => return .error failure
    | .ok plan => return plan.conclude (← plan.write.send client)

end Verifier

end VoterSession
