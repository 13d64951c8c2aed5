set_option autoImplicit false

/-!
The front-end methods that advance a session. Main statement: a method is named by exactly one text.
-/
namespace VoterSession

inductive Method where
  | authenticate
  | authenticateStatus
  | challenge
  | token
  | voterChoices
  | getCertificate
  | getCertificateStatus
  | sign
  | signStatus
  | vote
  | verify
deriving DecidableEq

namespace Method

def name : Method → String
  | authenticate => "RPC.Authenticate"
  | authenticateStatus => "RPC.AuthenticateStatus"
  | challenge => "RPC.Challenge"
  | token => "RPC.Token"
  | voterChoices => "RPC.VoterChoices"
  | getCertificate => "RPC.GetCertificate"
  | getCertificateStatus => "RPC.GetCertificateStatus"
  | sign => "RPC.Sign"
  | signStatus => "RPC.SignStatus"
  | vote => "RPC.Vote"
  | verify => "RPC.Verify"

/-- Every method, in the order of the lifecycle. -/
def all : List Method :=
  [authenticate, authenticateStatus, challenge, token, voterChoices, getCertificate,
    getCertificateStatus, sign, signStatus, vote, verify]

def ofName? (s : String) : Option Method := all.find? fun method => method.name == s

theorem ofName?_name (method : Method) : ofName? method.name = some method := by
  cases method <;> decide

theorem ofName?_eq_some_iff {s : String} {method : Method} :
    ofName? s = some method ↔ s = method.name := by
  constructor
  · intro h
    have := List.find?_some h
    exact (beq_iff_eq.1 this).symm
  · rintro rfl
    exact ofName?_name method

theorem name_ne_empty (method : Method) : method.name ≠ "" := by
  cases method <;> decide

/-- The text of the method that last advanced a session; empty when there is none. -/
def callerName : Option Method → String
  | none => ""
  | some method => method.name

def callerLabel : Option Method → String
  | none => "<none>"
  | some method => method.name

end Method

end VoterSession
