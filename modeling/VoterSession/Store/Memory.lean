import Std.Data.ExtTreeMap
import Std.Data.ExtTreeSet
import VoterSession.Store.Basic
set_option autoImplicit false

/-!
The lease store kept in memory. Every operation first removes the leases whose deadline has come, with
the keys attached to them. A write attaches its key to one lease; a lease that loses its last key is
given up at once. Times are milliseconds on one clock.
-/
namespace VoterSession

/-- A granted lease: how long it was granted for, when it ends, and the keys it keeps alive. -/
structure LeaseSlot where
  ttl : Nat
  deadline : Nat
  keys : Std.ExtTreeSet String := ∅
deriving DecidableEq

structure LeaseStore where
  entries : Std.ExtTreeMap String StoredValue := ∅
  slots : Std.ExtTreeMap LeaseId LeaseSlot := ∅
  /-- The number of the lease granted last. -/
  lastLease : Int := 0
deriving DecidableEq

namespace LeaseStore

def empty : LeaseStore := {}

def expired (now : Nat) (store : LeaseStore) : List LeaseSlot :=
  (store.slots.toList.map Prod.snd).filter fun slot => slot.deadline ≤ now

def purge (now : Nat) (store : LeaseStore) : LeaseStore where
  entries := store.entries.filter fun key _ => (store.expired now).all fun slot => !slot.keys.contains key
  slots := store.slots.filter fun _ slot => now < slot.deadline
  lastLease := store.lastLease

/-- Takes a key off a lease; the lease is given up with its last key. -/
def detach (key : String) (lease : LeaseId) (store : LeaseStore) : LeaseStore where
  entries := store.entries
  slots := store.slots.alter lease fun slot? => slot?.bind fun slot =>
    let keys := slot.keys.erase key
    if keys.isEmpty then none else some { slot with keys }
  lastLease := store.lastLease

def mint (now : Nat) (ttl : Ttl) (store : LeaseStore) : LeaseId × LeaseStore :=
  let number := store.lastLease + 1
  let slot : LeaseSlot := { ttl := ttl.millis, deadline := now + ttl.millis }
  (⟨number⟩, { store with slots := store.slots.insert ⟨number⟩ slot, lastLease := number })

/-- Starts a granted lease anew, for as long as it was granted for. -/
def renew (now : Nat) (lease : LeaseId) (store : LeaseStore) : Option LeaseStore :=
  store.slots[lease]?.map fun slot =>
    { store with slots := store.slots.insert lease { slot with deadline := now + slot.ttl } }

/-- The lease of a write: a new one when the write names none, the renewed one otherwise. -/
def acquire (now : Nat) (lease : LeaseId) (ttl : Ttl) (store : LeaseStore) : Option (LeaseId × LeaseStore) :=
  if lease.isNone then some (store.mint now ttl)
  else (store.renew now lease).map fun renewed => (lease, renewed)

/-- Takes a key off the lease it is attached to, unless that is `lease`. -/
def release (key : String) (lease : LeaseId) (store : LeaseStore) : LeaseStore :=
  match store.entries[key]? with
  | none => store
  | some entry => if entry.lease = lease then store else store.detach key entry.lease

def attach (key : String) (value : Bytes) (lease : LeaseId) (store : LeaseStore) : LeaseStore where
  entries := store.entries.insert key { value, lease }
  slots := store.slots.modify lease fun slot => { slot with keys := slot.keys.insert key }
  lastLease := store.lastLease

def remove (key : String) (store : LeaseStore) : LeaseStore :=
  match store.entries[key]? with
  | none => store
  | some entry => { store with entries := store.entries.erase key }.detach key entry.lease

/-- One operation at a time: its result and the store after it. An operation is given one instant: leases expire,
are granted and start anew at the same `now`. Where a clock is read for the expiry and again for the deadline,
no other operation comes between the two readings, and they count as one. -/
def step {α : Type} (now : Nat) (op : StoreOp α) (store : LeaseStore) : Except StoreError α × LeaseStore :=
  let live := store.purge now
  match op with
  | .get key => (.ok live.entries[key]?, live)
  | .put key value lease ttl =>
    match live.acquire now lease ttl with
    | none => (.error (.leaseNotFound lease), live)
    | some (held, leased) => (.ok (), (leased.release key held).attach key value held)
  | .delete key => (.ok (), live.remove key)

/-- What is left of a lease; none when it is not live. It is measured from the instant at which leases expire, as
the deadlines of `step` are. -/
def timeToLive (now : Nat) (lease : LeaseId) (store : LeaseStore) : Option Nat × LeaseStore :=
  let live := store.purge now
  (live.slots[lease]?.map fun slot => slot.deadline - now, live)

def liveKeys (now : Nat) (store : LeaseStore) : Nat × LeaseStore :=
  let live := store.purge now
  (live.entries.size, live)

def liveLeases (now : Nat) (store : LeaseStore) : Nat × LeaseStore :=
  let live := store.purge now
  (live.slots.size, live)

end LeaseStore

end VoterSession
