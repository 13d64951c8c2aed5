import VoterSession.Bytes
import VoterSession.Session.Id
set_option autoImplicit false

/-!
The header that every call carries. Only its session identifier is interpreted; the other fields are
bounded and passed on.
-/
namespace VoterSession

structure Header where
  sessionId : SessionId
  os : String := ""
  authMethod : String := ""
  authToken : Bytes := []
  dataToken : Bytes := []
deriving DecidableEq

namespace Header

def maxOs : Nat := 256

def maxAuthMethod : Nat := 64

def maxToken : Nat := 16384

def forSession (id : SessionId) : Header := { sessionId := id }

def checkText (field text : String) (max : Nat) : Except Violation Unit :=
  if max < text.utf8ByteSize then .error (.invalidValue field "exceeds max length")
  else if text.toList.any Text.isControl then
    .error (.invalidValue field "must not contain control characters")
  else .ok ()

def checkToken (field : String) (token : Bytes) : Except Violation Unit :=
  if maxToken < token.length then .error (.invalidValue field "exceeds max length") else .ok ()

/-- The first rule that the header breaks, in the order of its fields. -/
def validate (header : Header) : Except Violation Unit := do
  checkText "header.os" header.os maxOs
  checkText "header.auth_method" header.authMethod maxAuthMethod
  checkToken "header.auth_token" header.authToken
  checkToken "header.data_token" header.dataToken

end Header

end VoterSession
