import VoterSession.Workflow.Table
set_option autoImplicit false

/-!
The decision whether a method may run on a session, and what the record becomes if it does. It is a
function of the table, the record and the transport alone.
-/
namespace VoterSession

inductive Advance where
  | update (stage : Stage)
  | delete
deriving DecidableEq

structure Transition where
  method : Method
  auth : AuthTag
  /-- The lease to write with; `LeaseId.none` asks for a new one. -/
  lease : LeaseId
  advance : Advance
deriving DecidableEq

inductive Rejection where
  | methodNotInWorkflow (workflow : WorkflowKind) (method : Method)
  /-- The session is in no state in which the method may run. -/
  | invalidCallerOrAuth (method : Method) (caller : Option Method) (auth : AuthTag)
  /-- The session has no record and the connection is not one that may start it. -/
  | emptySession (method : Method) (transport : Transport)
deriving DecidableEq

def Transition.reasonCode (transition : Transition) : Nat :=
  match transition.advance with
  | .update _ => 0x53530001
  | .delete => 0x53530002

namespace Rejection

def reasonCode : Rejection → Nat
  | methodNotInWorkflow .. => 0x53530010
  | invalidCallerOrAuth .. => 0x53530011
  | emptySession .. => 0x53530012

def message : Rejection → String
  | methodNotInWorkflow workflow method =>
    "method " ++ method.name ++ " is not served by workflow " ++ workflow.name
  | invalidCallerOrAuth method caller auth =>
    "invalid caller/auth for session: method " ++ method.name ++ ", caller " ++
      Method.callerLabel caller ++ ", auth " ++ auth.label
  | emptySession method transport =>
    "empty session for non-ID-card connection: method " ++ method.name ++ ", transport " ++
      transport.name

end Rejection

namespace WorkflowTable

def transition (rule : TransitionRule) (row : TransitionRow) (record : SessionRecord) : Transition where
  method := rule.method
  auth := row.assign.apply record.auth
  lease := match rule.action with
    | .update _ fresh => if fresh then .none else record.lease
    | .delete => record.lease
  advance := match rule.action with
    | .update stage _ => .update stage
    | .delete => .delete

/-- The first row that has the record's state and admits the transport decides. -/
def evaluate (table : WorkflowTable) (method : Method) (record : SessionRecord) (transport : Transport) :
    Except Rejection Transition :=
  match table.rule? method with
  | none => .error (.methodNotInWorkflow table.kind method)
  | some rule =>
    match rule.rows.find? fun row => row.matchesRecord record && row.admits transport with
    | some row => .ok (transition rule row record)
    | none =>
      if record.isEmpty && rule.rows.any fun row => row.matchesRecord record && !row.admits transport then
        .error (.emptySession method transport)
      else .error (.invalidCallerOrAuth method record.caller record.auth)

end WorkflowTable

end VoterSession
