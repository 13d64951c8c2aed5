import Mathlib.Tactic.ByContra
import VoterSession.Store.Memory
set_option autoImplicit false

/-!
What the lease store holds, key by key. The state keeps the entries and the key sets of the leases side
by side; `Sound` says that the two agree, and `holding?` reads them as one thing: the value under a key
with the lease that keeps it alive. Main statements: an operation keeps a sound store sound, and what it
answers and changes can be said in holdings alone.
-/
namespace VoterSession

structure Holding where
  value : Bytes
  lease : LeaseId
  ttl : Nat
  deadline : Nat
deriving DecidableEq

namespace Holding

def stored (holding : Holding) : StoredValue := ⟨holding.value, holding.lease⟩

/-- The holding after its lease was started anew, if it is this one. -/
def renewed (now : Nat) (lease : LeaseId) (holding : Holding) : Holding :=
  if holding.lease = lease then { holding with deadline := now + holding.ttl } else holding

theorem renewed_lease (now : Nat) (lease : LeaseId) (holding : Holding) :
    (holding.renewed now lease).lease = holding.lease := by
  unfold renewed
  split <;> rfl

theorem renewed_value (now : Nat) (lease : LeaseId) (holding : Holding) :
    (holding.renewed now lease).value = holding.value := by
  unfold renewed
  split <;> rfl

theorem renewed_of_ne (now : Nat) {lease : LeaseId} {holding : Holding} (h : holding.lease ≠ lease) :
    holding.renewed now lease = holding := if_neg h

end Holding

def LeaseSlot.without (key : String) (slot : LeaseSlot) : Option LeaseSlot :=
  let keys := slot.keys.erase key
  if keys.isEmpty then none else some { slot with keys }

namespace LeaseSlot

theorem mem_erase {slot : LeaseSlot} {key k : String} :
    k ∈ slot.keys.erase key ↔ k ≠ key ∧ k ∈ slot.keys := by
  rw [Std.ExtTreeSet.mem_erase, Ne, Std.LawfulEqCmp.compare_eq_iff_eq, eq_comm]

theorem mem_insert {slot : LeaseSlot} {key k : String} :
    k ∈ slot.keys.insert key ↔ k = key ∨ k ∈ slot.keys := by
  rw [Std.ExtTreeSet.mem_insert, Std.LawfulEqCmp.compare_eq_iff_eq, eq_comm]

theorem without_eq_some {slot left : LeaseSlot} {key : String} (h : slot.without key = some left) :
    left = { slot with keys := slot.keys.erase key } ∧ ∃ k, k ∈ left.keys := by
  simp only [without] at h
  split at h
  · cases h
  · rename_i nonempty
    cases h
    refine ⟨rfl, ?_⟩
    by_contra none_left
    refine nonempty (Std.ExtTreeSet.isEmpty_iff.2 (Std.ExtTreeSet.eq_empty_iff_forall_not_mem.2 ?_))
    intro k hk
    exact none_left ⟨k, hk⟩

theorem without_of_mem {slot : LeaseSlot} {key k : String} (hk : k ∈ slot.keys) (ne : k ≠ key) :
    slot.without key = some { slot with keys := slot.keys.erase key } := by
  have kept : k ∈ slot.keys.erase key := mem_erase.2 ⟨ne, hk⟩
  unfold without
  rw [if_neg]
  intro none_left
  rw [Std.ExtTreeSet.isEmpty_iff] at none_left
  exact Std.ExtTreeSet.ne_empty_of_mem kept none_left

theorem without_of_notMem {slot : LeaseSlot} {key k : String} (hk : k ∈ slot.keys)
    (absent : key ∉ slot.keys) : slot.without key = some slot := by
  have ne : k ≠ key := fun h => absent (h ▸ hk)
  have same : slot.keys.erase key = slot.keys := by
    apply Std.ExtTreeSet.ext_mem
    intro j
    rw [mem_erase]
    exact ⟨fun h => h.2, fun h => ⟨fun e => absent (e ▸ h), h⟩⟩
  rw [without_of_mem hk ne, same]

end LeaseSlot

namespace LeaseStore

/-- The value under a key with its lease; none when the key or its lease is missing. -/
def holding? (key : String) (store : LeaseStore) : Option Holding :=
  store.entries[key]?.bind fun entry => store.slots[entry.lease]?.map fun slot =>
    { value := entry.value, lease := entry.lease, ttl := slot.ttl, deadline := slot.deadline }

/-- What an operation at this time finds under a key. -/
def seen (now : Nat) (key : String) (store : LeaseStore) : Option Holding := (store.purge now).holding? key

/-- The entries and the key sets of the leases agree, and the granted leases are numbered up to the last
one. -/
structure Linked (store : LeaseStore) : Prop where
  kept : ∀ {key : String} {entry : StoredValue}, store.entries[key]? = some entry →
    ∃ slot, store.slots[entry.lease]? = some slot ∧ key ∈ slot.keys
  listed : ∀ {lease : LeaseId} {slot : LeaseSlot} {key : String}, store.slots[lease]? = some slot →
    key ∈ slot.keys → ∃ value, store.entries[key]? = some ⟨value, lease⟩
  numbered : ∀ {lease : LeaseId} {slot : LeaseSlot}, store.slots[lease]? = some slot →
    1 ≤ lease.number ∧ lease.number ≤ store.lastLease
  lasting : ∀ {lease : LeaseId} {slot : LeaseSlot}, store.slots[lease]? = some slot → 0 < slot.ttl
  counted : 0 ≤ store.lastLease

/-- The state between two operations: no lease is without a key. -/
structure Sound (store : LeaseStore) : Prop extends Linked store where
  used : ∀ {lease : LeaseId} {slot : LeaseSlot}, store.slots[lease]? = some slot →
    ∃ key, key ∈ slot.keys

/-- The state in which a key can be attached to a lease, which may be without a key until then. -/
structure Ready (held : LeaseId) (store : LeaseStore) : Prop extends Linked store where
  granted : ∃ slot, store.slots[held]? = some slot
  used : ∀ {lease : LeaseId} {slot : LeaseSlot}, store.slots[lease]? = some slot → lease ≠ held →
    ∃ key, key ∈ slot.keys

theorem sound_empty : Sound empty where
  kept := by simp [empty]
  listed := by simp [empty]
  numbered := by simp [empty]
  lasting := by simp [empty]
  counted := by simp [empty]
  used := by simp [empty]

variable {store : LeaseStore}

theorem holding?_eq_some_iff {key : String} {holding : Holding} :
    store.holding? key = some holding ↔ ∃ slot, store.entries[key]? = some holding.stored ∧
      store.slots[holding.lease]? = some slot ∧ holding.ttl = slot.ttl ∧
        holding.deadline = slot.deadline := by
  unfold holding?
  constructor
  · intro h
    obtain ⟨entry, hentry, h⟩ := Option.bind_eq_some_iff.1 h
    obtain ⟨slot, hslot, rfl⟩ := Option.map_eq_some_iff.1 h
    exact ⟨slot, hentry, hslot, rfl, rfl⟩
  · rintro ⟨slot, hentry, hslot, httl, hdeadline⟩
    cases holding
    simp only [Holding.stored] at hentry hslot httl hdeadline
    simp [hentry, hslot, httl, hdeadline]

theorem Linked.holding?_of_entry (linked : store.Linked) {key : String} {entry : StoredValue}
    (h : store.entries[key]? = some entry) : ∃ slot, store.slots[entry.lease]? = some slot ∧
      key ∈ slot.keys ∧ store.holding? key =
        some ⟨entry.value, entry.lease, slot.ttl, slot.deadline⟩ := by
  obtain ⟨slot, hslot, hkey⟩ := linked.kept h
  exact ⟨slot, hslot, hkey, holding?_eq_some_iff.2 ⟨slot, h, hslot, rfl, rfl⟩⟩

theorem Linked.holding?_eq_none (linked : store.Linked) {key : String} :
    store.holding? key = none ↔ store.entries[key]? = none := by
  constructor
  · intro h
    cases hentry : store.entries[key]? with
    | none => rfl
    | some entry =>
      obtain ⟨_, _, _, hsome⟩ := linked.holding?_of_entry hentry
      rw [h] at hsome
      cases hsome
  · intro h
    simp [holding?, h]

theorem Linked.entry_eq (linked : store.Linked) (key : String) :
    store.entries[key]? = (store.holding? key).map Holding.stored := by
  cases hentry : store.entries[key]? with
  | none => rw [linked.holding?_eq_none.2 hentry]; rfl
  | some entry =>
    obtain ⟨_, _, _, hsome⟩ := linked.holding?_of_entry hentry
    rw [hsome]
    rfl

theorem Sound.holding?_of_slot (sound : store.Sound) {lease : LeaseId} {slot : LeaseSlot}
    (h : store.slots[lease]? = some slot) : ∃ key value,
      store.holding? key = some ⟨value, lease, slot.ttl, slot.deadline⟩ ∧ key ∈ slot.keys := by
  obtain ⟨key, hkey⟩ := sound.used h
  obtain ⟨value, hentry⟩ := sound.listed h hkey
  exact ⟨key, value, holding?_eq_some_iff.2 ⟨slot, hentry, h, rfl, rfl⟩, hkey⟩

theorem Linked.numbered_of_holding (linked : store.Linked) {key : String} {holding : Holding}
    (h : store.holding? key = some holding) :
    1 ≤ holding.lease.number ∧ holding.lease.number ≤ store.lastLease := by
  obtain ⟨slot, _, hslot, _⟩ := holding?_eq_some_iff.1 h
  exact linked.numbered hslot

end LeaseStore

end VoterSession
