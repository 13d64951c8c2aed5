import VoterSession.Bytes
import VoterSession.Session.Lease
set_option autoImplicit false

/-!
The interface of a key-value store whose entries live as long as their leases. `StoreOp` gives the
three operations with the types of their results, so that one definition handles all of them in every
layer over a store.
-/
namespace VoterSession

inductive StoreError where
  /-- No answer within so many milliseconds. -/
  | timeout (millis : Nat)
  | unavailable (text : String)
  /-- The lease expired, was given up, or was never granted. -/
  | leaseNotFound (lease : LeaseId)
deriving DecidableEq

namespace StoreError

def isTransient : StoreError → Bool
  | timeout _ => true
  | unavailable _ => true
  | leaseNotFound _ => false

def message : StoreError → String
  | timeout millis => "lease store operation timed out after " ++ toString millis ++ "ms"
  | unavailable text => "lease store unavailable: " ++ text
  | leaseNotFound lease => "lease " ++ lease.text ++ " not found"

end StoreError

structure StoredValue where
  value : Bytes
  lease : LeaseId
deriving DecidableEq

inductive StoreOp : Type → Type where
  | get (key : String) : StoreOp (Option StoredValue)
  /-- Writes under an existing lease, or under a new one of `ttl` when `lease` is none. -/
  | put (key : String) (value : Bytes) (lease : LeaseId) (ttl : Ttl) : StoreOp Unit
  | delete (key : String) : StoreOp Unit

def StoreOp.key {α : Type} : StoreOp α → String
  | get key => key
  | put key _ _ _ => key
  | delete key => key

structure StoreClient (m : Type → Type) where
  call : {α : Type} → StoreOp α → m (Except StoreError α)

end VoterSession
