import VoterSession.Wire.Conversion
set_option autoImplicit false

/-!
The session status over a remote channel: the service's side, which reads messages and answers with
messages or statuses, and the client's side, which sends them. A channel that cannot be opened answers
every call itself.
-/
namespace VoterSession.Wire

structure Channel (m : Type → Type) where
  call : {α : Type} → WireCall α → m (Except Status α)

section

variable {m : Type → Type} [Monad m]

/-- Answers a remote call; a message that is no request never reaches the service. -/
def handle {α : Type} (service : StatusService m) : WireCall α → m (Except Status α)
  | .read message =>
    match message.toReadRequest with
    | .error failure => return .error failure.status
    | .ok request => do
      return ((← service.serve (.read request)).mapError Status.ofService).map RecordMessage.ofResponse
  | .update message =>
    match message.toRequest with
    | .error failure => return .error failure.status
    | .ok request => do
      return ((← service.serve (.update request)).mapError Status.ofService).map AckMessage.ofAck
  | .delete message =>
    match message.toDeleteRequest with
    | .error failure => return .error failure.status
    | .ok request => do
      return ((← service.serve (.delete request)).mapError Status.ofService).map AckMessage.ofAck

namespace Channel

def toService (service : StatusService m) : Channel m where
  call := handle service

def unreachable : Channel m where
  call _ := return .error ⟨.unavailable, "tcp connect error"⟩

def readAnswer (message : RecordMessage) : Except ClientError ReadResponse :=
  message.toResponse.mapError fun failure =>
    .internal ("malformed session status response: " ++ failure.message)

def client (channel : Channel m) : StatusClient m where
  call
    | .read request => do
      match ← channel.call (.read (.ofReadRequest request)) with
      | .ok message => return readAnswer message
      | .error status => return .error status.clientError
    | .update request => do
      match ← channel.call (.update (.ofRequest request)) with
      | .ok message => return .ok message.toAck
      | .error status => return .error status.clientError
    | .delete request => do
      match ← channel.call (.delete (.ofDeleteRequest request)) with
      | .ok message => return .ok message.toAck
      | .error status => return .error status.clientError

end Channel

end

end VoterSession.Wire
