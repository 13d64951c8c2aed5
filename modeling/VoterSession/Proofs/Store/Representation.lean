import Mathlib.Data.List.Perm.Subperm
import VoterSession.Proofs.Store.Refinement
set_option autoImplicit false

/-!
What the state of the lease store looks like after any actions: the entries and the key sets of the leases
say the same, and every lease that is kept has a key, is still to end, and ends no later than if it were
started anew. Main statement: `reached_upheld`.
-/
namespace VoterSession

namespace LeaseStore

/-- The states that actions lead to from the empty store, at times that do not go back, each with the time
of the last action. -/
inductive Reached : Nat → LeaseStore → Prop
  | start : Reached 0 empty
  | act {now later : Nat} {store : LeaseStore} (before : Reached now store) (order : now ≤ later)
      (action : StoreAction) : Reached later (store.perform later action).2

structure Upheld (now : Nat) (store : LeaseStore) : Prop extends Sound store where
  current : ∀ {lease : LeaseId} {slot : LeaseSlot}, store.slots[lease]? = some slot →
    now < slot.deadline
  bounded : ∀ {lease : LeaseId} {slot : LeaseSlot}, store.slots[lease]? = some slot →
    slot.deadline ≤ now + slot.ttl

variable {store : LeaseStore}

/-! ### Leases through an operation -/

/-- What an operation at `now` can have made of a lease that is there after it: it is one that had not
ended, with the lifetime and the deadline it had, or it was started at `now`. -/
def Carried (now : Nat) (store : LeaseStore) (lease : LeaseId) (slot : LeaseSlot) : Prop :=
  now < slot.deadline ∧ (slot.deadline = now + slot.ttl ∨
    ∃ old, store.slots[lease]? = some old ∧ slot.ttl = old.ttl ∧ slot.deadline = old.deadline)

theorem carried_purge {now : Nat} {lease : LeaseId} {slot : LeaseSlot}
    (h : (store.purge now).slots[lease]? = some slot) : Carried now store lease slot := by
  rw [getElem?_slots_purge] at h
  obtain ⟨old, live⟩ := Option.filter_eq_some_iff.1 h
  exact ⟨by simpa using live, .inr ⟨slot, old, rfl, rfl⟩⟩

theorem Carried.keys {now : Nat} {lease : LeaseId} {slot : LeaseSlot} (carried : Carried now store lease slot)
    (keys : Std.ExtTreeSet String) : Carried now store lease { slot with keys } := carried

theorem Sound.carried_acquire (sound : store.Sound) {now : Nat} {lease held : LeaseId} {ttl : Ttl}
    {leased : LeaseStore} (h : (store.purge now).acquire now lease ttl = some (held, leased)) :
    leased.Ready held ∧ ∀ {l : LeaseId} {slot : LeaseSlot}, leased.slots[l]? = some slot →
      Carried now store l slot := by
  have live := sound.purge now
  unfold acquire at h
  split at h
  · cases h
    refine ⟨live.ready_mint now ttl, ?_⟩
    intro l slot hslot
    have minted := getElem?_slots_mint now ttl (store.purge now) l
    simp only [mint, hslot] at minted
    split at minted
    · cases minted
      exact ⟨Nat.lt_add_of_pos_right ttl.millis_pos, .inl rfl⟩
    · exact carried_purge minted.symm
  · obtain ⟨renewed, hrenew, same⟩ := Option.map_eq_some_iff.1 h
    obtain ⟨old, hold, rfl⟩ := Option.map_eq_some_iff.1 hrenew
    cases same
    refine ⟨live.ready_restarted hold now, ?_⟩
    intro l slot hslot
    have restarted := getElem?_slots_restarted now lease old (store.purge now) l
    rw [LeaseStore.restarted, hslot] at restarted
    split at restarted
    · cases restarted
      exact ⟨Nat.lt_add_of_pos_right (live.lasting hold), .inl rfl⟩
    · exact carried_purge restarted.symm

theorem Sound.carried_step (sound : store.Sound) {α : Type} {now : Nat} {op : StoreOp α} {lease : LeaseId}
    {slot : LeaseSlot} (h : (store.step now op).2.slots[lease]? = some slot) :
    Carried now store lease slot := by
  cases op with
  | get key => exact carried_purge h
  | put key value asked ttl =>
    simp only [step] at h
    split at h
    · exact carried_purge h
    · rename_i held leased hacquire
      obtain ⟨ready, carried⟩ := sound.carried_acquire hacquire
      obtain ⟨old, hold, ⟨_, rfl⟩ | ⟨_, rfl, _⟩⟩ := ready.slot_of_place h
      · exact (carried hold).keys _
      · exact (carried hold).keys _
  | delete key =>
    have live := sound.purge now
    simp only [step] at h
    rw [live.getElem?_slots_remove] at h
    obtain ⟨old, hold, left⟩ := Option.bind_eq_some_iff.1 h
    obtain ⟨rfl, _⟩ := LeaseSlot.without_eq_some left
    exact (carried_purge hold).keys _

/-! ### One action -/

theorem Sound.perform (sound : store.Sound) (now : Nat) (action : StoreAction) :
    (store.perform now action).2.Sound ∧
      ∀ {lease : LeaseId} {slot : LeaseSlot}, (store.perform now action).2.slots[lease]? = some slot →
        Carried now store lease slot := by
  have stepped {α : Type} (op : StoreOp α) : (store.step now op).2.Sound ∧
      ∀ {lease : LeaseId} {slot : LeaseSlot}, (store.step now op).2.slots[lease]? = some slot →
        Carried now store lease slot :=
    ⟨sound.step_sound now op, sound.carried_step⟩
  have purged : (store.purge now).Sound ∧
      ∀ {lease : LeaseId} {slot : LeaseSlot}, (store.purge now).slots[lease]? = some slot →
        Carried now store lease slot := ⟨sound.purge now, carried_purge⟩
  cases action with
  | get key => exact stepped (.get key)
  | put key value lease ttl => exact stepped (.put key value lease ttl)
  | delete key => exact stepped (.delete key)
  | timeToLive lease => exact purged
  | liveKeys => exact purged
  | liveLeases => exact purged
  | expire => exact purged

theorem Upheld.perform {now later : Nat} (upheld : store.Upheld now) (order : now ≤ later)
    (action : StoreAction) : (store.perform later action).2.Upheld later := by
  obtain ⟨sound, carried⟩ := upheld.toSound.perform later action
  refine { sound with current := fun h => (carried h).1, bounded := ?_ }
  intro lease slot h
  obtain ⟨_, started | ⟨old, hold, ttl, deadline⟩⟩ := carried h
  · exact Nat.le_of_eq started
  · have bound := upheld.bounded hold
    rw [ttl, deadline]
    omega

theorem Reached.upheld {now : Nat} (reached : Reached now store) : store.Upheld now := by
  induction reached with
  | start => exact { sound_empty with current := by simp [empty], bounded := by simp [empty] }
  | act before order action ih => exact ih.perform order action

/-! ### Keys and leases -/

theorem Sound.keys_apart (sound : store.Sound) {lease lease' : LeaseId} {slot slot' : LeaseSlot} {key : String}
    (h : store.slots[lease]? = some slot) (h' : store.slots[lease']? = some slot') (listed : key ∈ slot.keys)
    (listed' : key ∈ slot'.keys) : lease = lease' := by
  obtain ⟨value, entry⟩ := sound.listed h listed
  obtain ⟨value', entry'⟩ := sound.listed h' listed'
  rw [entry] at entry'
  cases entry'
  rfl

theorem Sound.slots_size_le (sound : store.Sound) : store.slots.size ≤ store.entries.size := by
  -- each lease is that of some entry
  have used : store.slots.keys ⊆ store.entries.toList.map fun entry => entry.2.lease := by
    intro lease member
    rw [Std.ExtTreeMap.mem_keys, Std.ExtTreeMap.mem_iff_isSome_getElem?, Option.isSome_iff_exists] at member
    obtain ⟨slot, hslot⟩ := member
    obtain ⟨key, hkey⟩ := sound.used hslot
    obtain ⟨value, hentry⟩ := sound.listed hslot hkey
    exact List.mem_map.2 ⟨(key, ⟨value, lease⟩),
      Std.ExtTreeMap.mem_toList_iff_getElem?_eq_some.2 hentry, rfl⟩
  have fewer := (Std.ExtTreeMap.nodup_keys.subperm used).length_le
  rwa [List.length_map, Std.ExtTreeMap.length_keys, Std.ExtTreeMap.length_toList] at fewer

theorem Sound.read_has_lease (sound : store.Sound) {now : Nat} {key : String} {stored : StoredValue}
    (found : (store.step now (.get key)).1 = .ok (some stored)) :
    ∃ left, 0 < left ∧ (store.timeToLive now stored.lease).1 = some left := by
  rw [sound.step_get] at found
  obtain ⟨holding, shown, rfl⟩ := Option.map_eq_some_iff.1 (Except.ok.inj found)
  have alive := sound.seen_alive shown
  exact ⟨holding.deadline - now, by omega, timeToLive_of_seen shown⟩

theorem Sound.lease_has_key (sound : store.Sound) {now left : Nat} {lease : LeaseId}
    (live : (store.timeToLive now lease).1 = some left) :
    ∃ key value, (store.step now (.get key)).1 = .ok (some ⟨value, lease⟩) := by
  obtain ⟨slot, hslot, _⟩ := Option.map_eq_some_iff.1 live
  obtain ⟨key, value, shown, _⟩ := (sound.purge now).holding?_of_slot hslot
  refine ⟨key, value, ?_⟩
  rw [sound.step_get, seen, shown]
  rfl

/-- In every state that actions lead to: each entry is listed by its lease, and each listed key has an entry
on that lease and on no other; every lease keeps a key, is numbered between one and the last, ends after the
last action, and no later than its lifetime from then on. So, whenever it is asked, a read finds no value
whose lease has ended, a lease that has time left keeps some key, and no more leases than keys are live. -/
theorem reached_upheld {now : Nat} {store : LeaseStore} (reached : Reached now store) :
    store.Upheld now ∧
    (∀ (lease lease' : LeaseId) (slot slot' : LeaseSlot) (key : String), store.slots[lease]? = some slot →
      store.slots[lease']? = some slot' → key ∈ slot.keys → key ∈ slot'.keys → lease = lease') ∧
    ∀ time : Nat,
      (∀ key stored, (store.step time (.get key)).1 = .ok (some stored) →
        ∃ left, 0 < left ∧ (store.timeToLive time stored.lease).1 = some left) ∧
      (∀ lease left, (store.timeToLive time lease).1 = some left →
        ∃ key value, (store.step time (.get key)).1 = .ok (some ⟨value, lease⟩)) ∧
      (store.liveLeases time).1 ≤ (store.liveKeys time).1 := by
  have upheld := reached.upheld
  have sound := upheld.toSound
  refine ⟨upheld, fun _ _ _ _ _ h h' => sound.keys_apart h h', ?_⟩
  intro time
  refine ⟨fun _ _ => sound.read_has_lease, fun _ _ => sound.lease_has_key, ?_⟩
  exact (sound.purge time).slots_size_le

/-- Two keys on one lease, of which the first moves to a lease of its own; writes on a lease that ended, on
one that was never granted and on a negative one are refused. -/
def movedKeys : LeaseStore :=
  let actions : List (Nat × StoreAction) :=
    [(0, .put "third" [0] .none { seconds := 4 }), (400, .put "first" [1] .none { seconds := 70 }),
      (500, .put "second" [2] ⟨2⟩ { seconds := 5 }), (600, .put "first" [3] .none { seconds := 6 }),
      (4000, .put "third" [4] ⟨1⟩ { seconds := 5 }), (4000, .put "third" [5] ⟨7⟩ { seconds := 5 }),
      (4100, .put "second" [6] ⟨-2⟩ { seconds := 5 })]
  actions.foldl (fun store action => (store.perform action.1 action.2).2) empty

theorem moved_keys_reached : Reached 4100 movedKeys ∧ movedKeys.Upheld 4100 ∧
    (movedKeys.step 4100 (.get "first")).1 = .ok (some ⟨[3], ⟨3⟩⟩) ∧
    (∃ left, 0 < left ∧ (movedKeys.timeToLive 4100 ⟨3⟩).1 = some left) ∧
    (movedKeys.liveLeases 4100).1 = 2 ∧ (movedKeys.liveLeases 4100).1 ≤ (movedKeys.liveKeys 4100).1 := by
  have reached : Reached 4100 movedKeys :=
    .act (.act (.act (.act (.act (.act (.act .start (Nat.zero_le 0) _) (by decide) _) (by decide) _)
      (by decide) _) (by decide) _) (Nat.le_refl 4000) _) (by decide) _
  have found : (movedKeys.step 4100 (.get "first")).1 = .ok (some ⟨[3], ⟨3⟩⟩) := by decide +kernel
  obtain ⟨upheld, _, always⟩ := reached_upheld reached
  obtain ⟨reads, _, fewer⟩ := always 4100
  exact ⟨reached, upheld, found, reads "first" _ found, by decide +kernel, fewer⟩

end LeaseStore

end VoterSession
