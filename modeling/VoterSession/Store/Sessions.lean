import VoterSession.Session.Id
import VoterSession.Store.Basic
import VoterSession.Store.RecordText
set_option autoImplicit false

/-!
Sessions in a store. Each session has one key; a missing key is a session without a record, and a
value that is no record is an error and never taken for one.
-/
namespace VoterSession

inductive RepoError where
  | corrupt (key : String) (reason : CorruptReason)
  | store (key : String) (source : StoreError)
deriving DecidableEq

namespace RepoError

def key : RepoError → String
  | corrupt key _ => key
  | store key _ => key

def message : RepoError → String
  | corrupt key reason => "corrupt session record at " ++ key ++ ": " ++ reason.message
  | store key source => "session store failure at " ++ key ++ ": " ++ source.message

end RepoError

namespace Sessions

def keyPrefix : String := "/session/"

def key (id : SessionId) : String := keyPrefix ++ id.text

theorem key_injective {a b : SessionId} (h : key a = key b) : a = b :=
  SessionId.ext (by simpa [key] using h)

def record (key : String) : Option StoredValue → Except RepoError SessionRecord
  | none => .ok .empty
  | some stored =>
    match RecordText.decode stored.value with
    | .ok (caller, auth) => .ok { caller, auth, lease := stored.lease }
    | .error reason => .error (.corrupt key reason)

variable {m : Type → Type} [Monad m]

def read (store : StoreClient m) (id : SessionId) : m (Except RepoError SessionRecord) := do
  match ← store.call (.get (key id)) with
  | .ok stored => return record (key id) stored
  | .error source => return .error (.store (key id) source)

def update (store : StoreClient m) (id : SessionId) (caller : Method) (auth : AuthTag) (lease : LeaseId)
    (ttl : Ttl) : m (Except RepoError Unit) := do
  match ← store.call (.put (key id) (RecordText.encode (some caller) auth) lease ttl) with
  | .ok () => return .ok ()
  | .error source => return .error (.store (key id) source)

def delete (store : StoreClient m) (id : SessionId) : m (Except RepoError Unit) := do
  match ← store.call (.delete (key id)) with
  | .ok () => return .ok ()
  | .error source => return .error (.store (key id) source)

end Sessions

end VoterSession
