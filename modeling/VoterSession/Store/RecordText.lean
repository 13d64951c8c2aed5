import VoterSession.Session.Record
import VoterSession.Text.Base64
import VoterSession.Text.Quoted
import VoterSession.Text.Separated
set_option autoImplicit false

/-!
The stored form of a session's state: the names of its method and its tag, divided by the unit
separator U+001F, in Base64. The lease is not part of it; the store keeps that beside the value.
-/
namespace VoterSession

/-- Why a stored value is no record; the first reason that applies is reported. -/
inductive CorruptReason where
  | invalidBase64
  | invalidUtf8
  | fieldCount (fields : Nat)
  | unknownCaller (text : String)
  | unknownAuth (text : String)
deriving DecidableEq

def CorruptReason.message : CorruptReason → String
  | invalidBase64 => "value is not valid base64"
  | invalidUtf8 => "decoded value is not UTF-8"
  | fieldCount fields => "expected 2 fields, got " ++ toString fields
  | unknownCaller text => "unknown caller " ++ Text.quoted text
  | unknownAuth text => "unknown auth tag " ++ Text.quoted text

namespace RecordText

/-- The character between the two fields; no method and no tag has it in its name. -/
def separator : Char := '\x1f'

def encode (caller : Option Method) (auth : AuthTag) : Bytes :=
  Text.Base64.encode
    (Bytes.ofText (Method.callerName caller ++ (String.singleton separator ++ auth.name)))

def caller (name : String) : Except CorruptReason (Option Method) :=
  if name = "" then .ok none
  else match Method.ofName? name with
    | some method => .ok (some method)
    | none => .error (.unknownCaller name)

def auth (name : String) : Except CorruptReason AuthTag :=
  match AuthTag.ofName? name with
  | some tag => .ok tag
  | none => .error (.unknownAuth name)

def ofText (text : String) : Except CorruptReason (Option Method × AuthTag) :=
  match Text.Separated.split separator text.toList with
  | [callerName, authName] => do
    let method ← caller (String.ofList callerName)
    let tag ← auth (String.ofList authName)
    return (method, tag)
  | fields => .error (.fieldCount fields.length)

def decode (raw : Bytes) : Except CorruptReason (Option Method × AuthTag) :=
  match Text.Base64.decode? raw with
  | none => .error .invalidBase64
  | some bytes =>
    match Bytes.text? bytes with
    | none => .error .invalidUtf8
    | some text => ofText text

end RecordText

end VoterSession
