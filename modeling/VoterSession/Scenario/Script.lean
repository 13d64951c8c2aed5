import VoterSession.Scenario.Run
set_option autoImplicit false

/-!
A client that answers from a script and remembers what it was asked.
-/
namespace VoterSession.Scenario

structure Script where
  read : Except ClientError SessionRecord
  ack : Except ClientError Bool

inductive Received where
  | read (header : Header)
  | update (request : UpdateRequest)
  | delete (header : Header)
deriving DecidableEq

namespace Script

def receive (call : Received) : StateM (List Received) Unit := modify (· ++ [call])

def client (script : Script) : StatusClient (StateM (List Received)) where
  call
    | .read request => do
      receive (.read request.header)
      return script.read.map fun record => { header := request.header, record }
    | .update request => do
      receive (.update request)
      return script.ack.map fun ok => { ok }
    | .delete request => do
      receive (.delete request.header)
      return script.ack.map fun ok => { ok }

/-- What a verification with the scripted client comes to, and what the client was asked. The table is
checked before the session identifier. -/
def verify (script : Script) (ttls : StageTtls) (kind : WorkflowKind) (completion : VoteCompletion)
    (method : Method) (transport : Transport) (header : Wire.HeaderMessage) :
    Except Failure (Except VerifyError AcceptedTransition × List Received) := do
  let verifier ← (verifierFor ttls kind completion).mapError .config
  let header ← header.unchecked.mapError .contract
  return StateT.run (m := Id) (verifier.verify script.client header method transport) []

end Script

end VoterSession.Scenario
