import VoterSession.Wire.Field
set_option autoImplicit false

/-!
The messages of the remote protocol as they travel: every value is text or bytes, and nothing is
checked yet. Reading a message takes its fields in any order; of a field that comes more than once the
last one counts, but the parts of a header that comes more than once are merged.
-/
namespace VoterSession.Wire

structure HeaderMessage where
  sessionId : String := ""
  os : String := ""
  authMethod : String := ""
  authToken : Bytes := []
  dataToken : Bytes := []
deriving DecidableEq

/-- A request that names a session by its header alone: to read or to delete. -/
structure SessionMessage where
  header : Option HeaderMessage := none
deriving DecidableEq

structure RecordMessage where
  header : Option HeaderMessage := none
  caller : String := ""
  auth : String := ""
  lease : String := ""
deriving DecidableEq

structure UpdateMessage where
  header : Option HeaderMessage := none
  caller : String := ""
  auth : String := ""
  lease : String := ""
  ttl : String := ""
deriving DecidableEq

structure AckMessage where
  ok : Bool := false
deriving DecidableEq

/-- A message from its bytes: its fields are merged one by one into the message without any. -/
def decodeMessage? {α : Type} (limit : Nat) (merge : α → Field → Option α) (start : α) (bytes : Bytes) :
    Option α := do
  (← Field.decodeAll? limit bytes).foldlM merge start

namespace HeaderMessage

def fields (message : HeaderMessage) : List Field :=
  Field.ofText 1 message.sessionId ++ Field.ofText 2 message.os ++ Field.ofText 3 message.authMethod ++
    Field.ofBytes 4 message.authToken ++ Field.ofBytes 5 message.dataToken

def merge (message : HeaderMessage) (field : Field) : Option HeaderMessage :=
  match field.number with
  | 1 => do return { message with sessionId := ← Field.text? field.payload }
  | 2 => do return { message with os := ← Field.text? field.payload }
  | 3 => do return { message with authMethod := ← Field.text? field.payload }
  | 4 => do return { message with authToken := ← Field.bytes? field.payload }
  | 5 => do return { message with dataToken := ← Field.bytes? field.payload }
  | _ => some message

def encode (message : HeaderMessage) : Bytes := Field.encodeAll message.fields

def decode? (bytes : Bytes) : Option HeaderMessage := decodeMessage? Field.depthLimit merge {} bytes

def field (number : Nat) : Option HeaderMessage → List Field
  | none => []
  | some message => [⟨number, .delimited message.encode⟩]

def mergeInto (header : Option HeaderMessage) (payload : Payload) : Option HeaderMessage := do
  decodeMessage? (Field.depthLimit - 1) merge (header.getD {}) (← Field.bytes? payload)

end HeaderMessage

namespace SessionMessage

def fields (message : SessionMessage) : List Field := HeaderMessage.field 1 message.header

def merge (message : SessionMessage) (field : Field) : Option SessionMessage :=
  match field.number with
  | 1 => do return { message with header := ← HeaderMessage.mergeInto message.header field.payload }
  | _ => some message

def encode (message : SessionMessage) : Bytes := Field.encodeAll message.fields

def decode? (bytes : Bytes) : Option SessionMessage := decodeMessage? Field.depthLimit merge {} bytes

end SessionMessage

namespace RecordMessage

def fields (message : RecordMessage) : List Field :=
  HeaderMessage.field 1 message.header ++ Field.ofText 2 message.caller ++ Field.ofText 3 message.auth ++
    Field.ofText 4 message.lease

def merge (message : RecordMessage) (field : Field) : Option RecordMessage :=
  match field.number with
  | 1 => do return { message with header := ← HeaderMessage.mergeInto message.header field.payload }
  | 2 => do return { message with caller := ← Field.text? field.payload }
  | 3 => do return { message with auth := ← Field.text? field.payload }
  | 4 => do return { message with lease := ← Field.text? field.payload }
  | _ => some message

def encode (message : RecordMessage) : Bytes := Field.encodeAll message.fields

def decode? (bytes : Bytes) : Option RecordMessage := decodeMessage? Field.depthLimit merge {} bytes

end RecordMessage

namespace UpdateMessage

def fields (message : UpdateMessage) : List Field :=
  HeaderMessage.field 1 message.header ++ Field.ofText 2 message.caller ++ Field.ofText 3 message.auth ++
    Field.ofText 4 message.lease ++ Field.ofText 5 message.ttl

def merge (message : UpdateMessage) (field : Field) : Option UpdateMessage :=
  match field.number with
  | 1 => do return { message with header := ← HeaderMessage.mergeInto message.header field.payload }
  | 2 => do return { message with caller := ← Field.text? field.payload }
  | 3 => do return { message with auth := ← Field.text? field.payload }
  | 4 => do return { message with lease := ← Field.text? field.payload }
  | 5 => do return { message with ttl := ← Field.text? field.payload }
  | _ => some message

def encode (message : UpdateMessage) : Bytes := Field.encodeAll message.fields

def decode? (bytes : Bytes) : Option UpdateMessage := decodeMessage? Field.depthLimit merge {} bytes

end UpdateMessage

namespace AckMessage

def fields (message : AckMessage) : List Field := Field.ofBool 1 message.ok

def merge (message : AckMessage) (field : Field) : Option AckMessage :=
  match field.number with
  | 1 => do return { message with ok := ← Field.bool? field.payload }
  | _ => some message

def encode (message : AckMessage) : Bytes := Field.encodeAll message.fields

def decode? (bytes : Bytes) : Option AckMessage := decodeMessage? Field.depthLimit merge {} bytes

end AckMessage

inductive WireCall : Type → Type where
  | read (message : SessionMessage) : WireCall RecordMessage
  | update (message : UpdateMessage) : WireCall AckMessage
  | delete (message : SessionMessage) : WireCall AckMessage

def serviceName : String := "collector.sessionstatus.v1.SessionStatus"

end VoterSession.Wire
