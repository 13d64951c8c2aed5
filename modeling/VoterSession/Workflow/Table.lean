import VoterSession.Session.Record
import VoterSession.Workflow.Stage
set_option autoImplicit false

/-!
Workflow tables. Each front-end service serves some methods, and for each of them lists the states of
a session in which it may run and what it does to the record. The five tables at the end are the whole
protocol.
-/
namespace VoterSession

inductive AuthMatch where
  | empty
  | exactly (tag : AuthTag)
  | anyResolved
deriving DecidableEq

def AuthMatch.accepts : AuthMatch → AuthTag → Bool
  | empty, tag => !tag.isResolved
  | exactly expected, tag => tag == expected
  | anyResolved, tag => tag.isResolved

inductive AuthAssign where
  | keep
  | assign (tag : AuthTag)
deriving DecidableEq

def AuthAssign.apply : AuthAssign → AuthTag → AuthTag
  | keep, tag => tag
  | assign tag, _ => tag

/-- One state of a session in which a method may run. -/
structure TransitionRow where
  priorCaller : Option Method
  priorAuth : AuthMatch
  assign : AuthAssign
  /-- The only transport that the row admits; without one it admits both. -/
  transport : Option Transport := none
deriving DecidableEq

namespace TransitionRow

def fromEmpty (tag : AuthTag) : TransitionRow :=
  { priorCaller := none, priorAuth := .empty, assign := .assign tag }

def after (prior : Method) (auth : AuthMatch) : TransitionRow :=
  { priorCaller := some prior, priorAuth := auth, assign := .keep }

def withTransport (row : TransitionRow) (transport : Transport) : TransitionRow :=
  { row with transport := some transport }

def matchesRecord (row : TransitionRow) (record : SessionRecord) : Bool :=
  row.priorCaller == record.caller && row.priorAuth.accepts record.auth

def admits (row : TransitionRow) (transport : Transport) : Bool :=
  match row.transport with
  | none => true
  | some required => required == transport

end TransitionRow

inductive AdvanceAction where
  /-- Replaces it for the lifetime of a stage, on a new lease or on the one it has. -/
  | update (stage : Stage) (freshLease : Bool)
  | delete
deriving DecidableEq

structure TransitionRule where
  method : Method
  rows : List TransitionRow
  action : AdvanceAction
deriving DecidableEq

inductive WorkflowKind where
  | mobileIdFlow (tag : AuthTag)
  | choiceSelection
  | webEid
  | voteCasting
  | verification
deriving DecidableEq

def WorkflowKind.name : WorkflowKind → String
  | mobileIdFlow .smartId => "smartid"
  | mobileIdFlow _ => "mobileid"
  | choiceSelection => "choices"
  | webEid => "webeid"
  | voteCasting => "voting"
  | verification => "verification"

structure WorkflowTable where
  kind : WorkflowKind
  rules : List TransitionRule
deriving DecidableEq

namespace WorkflowTable

open TransitionRow AuthMatch

def rule? (table : WorkflowTable) (method : Method) : Option TransitionRule :=
  table.rules.find? fun rule => rule.method == method

def serves (table : WorkflowTable) (method : Method) : Bool := (table.rule? method).isSome

/-- Authentication by phone, and the signing steps, for one tag. -/
def mobileFlow (tag : AuthTag) : WorkflowTable where
  kind := .mobileIdFlow tag
  rules := [
    { method := .authenticate
      rows := [fromEmpty tag]
      action := .update .auth false },
    { method := .authenticateStatus
      rows := [after .authenticate (exactly tag), after .authenticateStatus (exactly tag)]
      action := .update .auth false },
    { method := .getCertificate
      rows := [after .voterChoices (exactly tag)]
      action := .update .vote true },
    { method := .getCertificateStatus
      rows := [after .getCertificate (exactly tag), after .getCertificateStatus (exactly tag)]
      action := .update .vote false },
    { method := .sign
      rows := [after .getCertificateStatus (exactly tag)]
      action := .update .vote false },
    { method := .signStatus
      rows := [after .sign (exactly tag), after .signStatus (exactly tag)]
      action := .update .vote false }]

/-- The list of choices: opened by the ID card, or after any other authentication. -/
def choiceSelection : WorkflowTable where
  kind := .choiceSelection
  rules := [
    { method := .voterChoices
      rows := [
        (fromEmpty .idCard).withTransport .tls,
        after .authenticateStatus (exactly .mobileId),
        after .authenticateStatus (exactly .smartId),
        after .token (exactly .webEid)]
      action := .update .choice true }]

def webEid : WorkflowTable where
  kind := .webEid
  rules := [
    { method := .challenge
      rows := [fromEmpty .webEid]
      action := .update .auth false },
    { method := .token
      rows := [after .challenge (exactly .webEid)]
      action := .update .auth false }]

def voteAction : VoteCompletion → AdvanceAction
  | .delete => .delete
  | .handoff => .update .verify true

/-- Casting the vote: right after the choices with a card, after signing with a phone. -/
def voteCasting (completion : VoteCompletion) : WorkflowTable where
  kind := .voteCasting
  rules := [
    { method := .vote
      rows := [
        after .voterChoices (exactly .idCard),
        after .voterChoices (exactly .webEid),
        after .signStatus (exactly .mobileId),
        after .signStatus (exactly .smartId)]
      action := voteAction completion }]

def verification : WorkflowTable where
  kind := .verification
  rules := [
    { method := .verify
      rows := [after .vote anyResolved, after .verify anyResolved]
      action := .update .verify false }]

/-- The table of a service; a phone flow needs one of the two phone tags. -/
def ofKind (kind : WorkflowKind) (completion : VoteCompletion) : Except Violation WorkflowTable :=
  match kind with
  | .mobileIdFlow tag =>
    if tag = .mobileId ∨ tag = .smartId then .ok (mobileFlow tag)
    else .error (.invalidValue "workflow_table.mobile_id_flow.tag" "must be mid or sid")
  | .choiceSelection => .ok choiceSelection
  | .webEid => .ok webEid
  | .voteCasting => .ok (voteCasting completion)
  | .verification => .ok verification

end WorkflowTable

end VoterSession
