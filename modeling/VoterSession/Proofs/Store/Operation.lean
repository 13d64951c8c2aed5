import VoterSession.Proofs.Store.Holding
set_option autoImplicit false

/-!
The operations of the lease store, said in holdings. Each operation first forgets what has expired; a
write then gives its key a holding on one lease, a deletion takes the holding away, and all other
holdings stay, up to the deadline of a lease that they share with the write.
-/
namespace VoterSession

namespace LeaseStore

variable {store : LeaseStore}

/-! ### Expiry -/

theorem getElem?_slots_purge (now : Nat) (store : LeaseStore) (lease : LeaseId) :
    (store.purge now).slots[lease]? = store.slots[lease]?.filter fun slot => now < slot.deadline :=
  Std.ExtTreeMap.getElem?_filter'

theorem mem_expired {now : Nat} {slot : LeaseSlot} : slot ∈ store.expired now ↔
    slot.deadline ≤ now ∧ ∃ lease : LeaseId, store.slots[lease]? = some slot := by
  simp [expired, and_comm, Std.ExtTreeMap.mem_toList_iff_getElem?_eq_some]

theorem Sound.getElem?_entries_purge (sound : store.Sound) (now : Nat) (key : String) :
    (store.purge now).entries[key]? =
      ((store.holding? key).filter fun holding => now < holding.deadline).map Holding.stored := by
  have lookup : (store.purge now).entries[key]? = store.entries[key]?.filter
      fun _ => (store.expired now).all fun slot => !slot.keys.contains key :=
    Std.ExtTreeMap.getElem?_filter'
  rw [lookup, sound.entry_eq key]
  cases hh : store.holding? key with
  | none => rfl
  | some holding =>
    obtain ⟨slot, hentry, hslot, _, hdeadline⟩ := holding?_eq_some_iff.1 hh
    obtain ⟨slot', hslot', hkey⟩ := sound.kept hentry
    obtain rfl : slot = slot' := Option.some.inj (hslot.symm.trans hslot')
    -- the only slot that lists the key is the one of its own lease
    have alone : (store.expired now).all (fun slot => !slot.keys.contains key) = true ↔
        now < holding.deadline := by
      rw [List.all_eq_true]
      constructor
      · intro h
        by_contra late
        have unlisted := h slot (mem_expired.2 ⟨by omega, _, hslot⟩)
        rw [Std.ExtTreeSet.contains_iff_mem.2 hkey] at unlisted
        cases unlisted
      · intro live other hother
        obtain ⟨late, lease, hlease⟩ := mem_expired.1 hother
        by_contra listed
        have hmem : key ∈ other.keys := by simpa using listed
        obtain ⟨value, hentry'⟩ := sound.listed hlease hmem
        have same := congrArg StoredValue.lease (Option.some.inj (hentry.symm.trans hentry'))
        simp only [Holding.stored] at same
        rw [← same, hslot] at hlease
        cases hlease
        omega
    by_cases live : now < holding.deadline
    · simp [Option.filter, alone.2 live, live]
    · have gone : (store.expired now).all (fun slot => !slot.keys.contains key) = false :=
        Bool.eq_false_iff.2 fun h => live (alone.1 h)
      simp [Option.filter, gone, live]

theorem Sound.seen_eq (sound : store.Sound) (now : Nat) (key : String) :
    store.seen now key = (store.holding? key).filter fun holding => now < holding.deadline := by
  unfold seen
  rw [holding?, sound.getElem?_entries_purge]
  cases hh : store.holding? key with
  | none => rfl
  | some holding =>
    by_cases live : now < holding.deadline
    · obtain ⟨slot, _, hslot, httl, hdeadline⟩ := holding?_eq_some_iff.1 hh
      simp [Option.filter, live, Holding.stored, getElem?_slots_purge, hslot, ← httl, ← hdeadline]
    · simp [Option.filter, live]

theorem Sound.purge (sound : store.Sound) (now : Nat) : (store.purge now).Sound where
  kept := by
    intro key entry h
    rw [sound.getElem?_entries_purge] at h
    obtain ⟨holding, hfilter, rfl⟩ := Option.map_eq_some_iff.1 h
    obtain ⟨hh, live⟩ := Option.filter_eq_some_iff.1 hfilter
    obtain ⟨slot, hentry, hslot, _, hdeadline⟩ := holding?_eq_some_iff.1 hh
    obtain ⟨slot', hslot', hkey⟩ := sound.kept hentry
    obtain rfl : slot = slot' := Option.some.inj (hslot.symm.trans hslot')
    refine ⟨slot, ?_, hkey⟩
    rw [getElem?_slots_purge, Holding.stored, hslot]
    simpa [Option.filter, hdeadline] using live
  listed := by
    intro lease slot key hlease hkey
    rw [getElem?_slots_purge] at hlease
    obtain ⟨hslot, live⟩ := Option.filter_eq_some_iff.1 hlease
    obtain ⟨value, hentry⟩ := sound.listed hslot hkey
    refine ⟨value, ?_⟩
    rw [sound.getElem?_entries_purge, holding?, hentry]
    simp only [decide_eq_true_eq] at live
    simp [Option.filter, hslot, live, Holding.stored]
  used := by
    intro lease slot hlease
    rw [getElem?_slots_purge] at hlease
    exact sound.used (Option.filter_eq_some_iff.1 hlease).1
  numbered := by
    intro lease slot hlease
    rw [getElem?_slots_purge] at hlease
    exact sound.numbered (Option.filter_eq_some_iff.1 hlease).1
  lasting := by
    intro lease slot hlease
    rw [getElem?_slots_purge] at hlease
    exact sound.lasting (Option.filter_eq_some_iff.1 hlease).1
  counted := sound.counted

theorem Sound.seen_purge (sound : store.Sound) {now later : Nat} (h : now ≤ later) (key : String) :
    (store.purge now).seen later key = store.seen later key := by
  rw [(sound.purge now).seen_eq, sound.seen_eq]
  have : (store.purge now).holding? key = store.seen now key := rfl
  rw [this, sound.seen_eq]
  cases store.holding? key with
  | none => rfl
  | some holding =>
    by_cases live : later < holding.deadline
    · have : now < holding.deadline := by omega
      simp [Option.filter, this]
    · by_cases now_live : now < holding.deadline <;> simp [Option.filter, live, now_live]

theorem Sound.seen_mono (sound : store.Sound) {now later : Nat} (h : now ≤ later) {key : String}
    {holding : Holding} (hlater : store.seen later key = some holding) :
    store.seen now key = some holding ∧ later < holding.deadline := by
  rw [sound.seen_eq] at hlater ⊢
  obtain ⟨hh, live⟩ := Option.filter_eq_some_iff.1 hlater
  simp only [decide_eq_true_eq] at live
  refine ⟨?_, live⟩
  rw [hh]
  have : now < holding.deadline := by omega
  simp [Option.filter, this]

/-! ### Attaching a key to a lease -/

theorem getElem?_slots_detach (key : String) (held lease : LeaseId) (store : LeaseStore) :
    (store.detach key held).slots[lease]? =
      if held = lease then store.slots[held]?.bind (LeaseSlot.without key) else store.slots[lease]? := by
  simp only [detach, Std.ExtTreeMap.getElem?_alter, Std.LawfulEqCmp.compare_eq_iff_eq]
  rfl

/-- Gives a key a value on a lease and takes it off the lease it was on. -/
def place (key : String) (value : Bytes) (held : LeaseId) (store : LeaseStore) : LeaseStore :=
  (store.release key held).attach key value held

theorem getElem?_entries_place (key : String) (value : Bytes) (held : LeaseId) (store : LeaseStore)
    (k : String) : (store.place key value held).entries[k]? =
      if k = key then some ⟨value, held⟩ else store.entries[k]? := by
  have same : (store.release key held).entries = store.entries := by
    unfold release
    split
    · rfl
    · split <;> rfl
  simp only [place, attach, Std.ExtTreeMap.getElem?_insert, same, Std.LawfulEqCmp.compare_eq_iff_eq]
  exact if_congr eq_comm rfl rfl

theorem lastLease_place (key : String) (value : Bytes) (held : LeaseId) (store : LeaseStore) :
    (store.place key value held).lastLease = store.lastLease := by
  unfold place release
  split
  · rfl
  · split <;> rfl

theorem Ready.getElem?_slots_place {held : LeaseId} (ready : store.Ready held) (key : String)
    (value : Bytes) (lease : LeaseId) : (store.place key value held).slots[lease]? =
      if lease = held then store.slots[held]?.map fun slot => { slot with keys := slot.keys.insert key }
      else store.slots[lease]?.bind (LeaseSlot.without key) := by
  have modified (s : LeaseStore) : (s.attach key value held).slots[lease]? =
      if lease = held then s.slots[held]?.map fun slot => { slot with keys := slot.keys.insert key }
      else s.slots[lease]? := by
    simp only [attach, Std.ExtTreeMap.getElem?_modify, Std.LawfulEqCmp.compare_eq_iff_eq]
    exact if_congr eq_comm rfl rfl
  -- a lease that does not list the key loses nothing
  have unchanged (h : ∀ entry, store.entries[key]? = some entry → entry.lease ≠ lease)
      (other : lease ≠ held) : store.slots[lease]? = store.slots[lease]?.bind (LeaseSlot.without key) := by
    cases hslot : store.slots[lease]? with
    | none => rfl
    | some slot =>
      obtain ⟨k, hk⟩ := ready.used hslot other
      have absent : key ∉ slot.keys := by
        intro listed
        obtain ⟨value, hentry⟩ := ready.listed hslot listed
        exact h _ hentry rfl
      exact (LeaseSlot.without_of_notMem hk absent).symm
  unfold place release
  cases hentry : store.entries[key]? with
  | none =>
    rw [modified]
    split
    · rfl
    · rename_i other
      exact unchanged (by simp [hentry]) other
  | some entry =>
    simp only
    split
    · rename_i stays
      rw [modified]
      split
      · rfl
      · rename_i other
        refine unchanged ?_ other
        intro entry' h
        rw [hentry] at h
        cases h
        exact fun e => other (e.symm.trans stays)
    · rename_i moves
      rw [modified, getElem?_slots_detach, getElem?_slots_detach, if_neg moves]
      split
      · rfl
      · rename_i other
        split
        · rename_i left
          rw [left]
        · rename_i elsewhere
          refine unchanged ?_ other
          intro entry' h
          rw [hentry] at h
          cases h
          exact elsewhere

theorem Ready.slot_of_place {held : LeaseId} (ready : store.Ready held) {key : String} {value : Bytes}
    {lease : LeaseId} {slot : LeaseSlot} (h : (store.place key value held).slots[lease]? = some slot) :
    ∃ old, store.slots[lease]? = some old ∧
      (lease = held ∧ slot = { old with keys := old.keys.insert key } ∨
        lease ≠ held ∧ slot = { old with keys := old.keys.erase key } ∧ ∃ k, k ∈ slot.keys) := by
  rw [ready.getElem?_slots_place] at h
  by_cases here : lease = held
  · subst here
    rw [if_pos rfl] at h
    obtain ⟨old, hold, rfl⟩ := Option.map_eq_some_iff.1 h
    exact ⟨old, hold, .inl ⟨rfl, rfl⟩⟩
  · rw [if_neg here] at h
    obtain ⟨old, hold, left⟩ := Option.bind_eq_some_iff.1 h
    obtain ⟨rfl, some_key⟩ := LeaseSlot.without_eq_some left
    exact ⟨old, hold, .inr ⟨here, rfl, some_key⟩⟩

theorem Ready.sound_place {held : LeaseId} (ready : store.Ready held) (key : String) (value : Bytes) :
    (store.place key value held).Sound where
  kept := by
    intro k entry h
    rw [getElem?_entries_place] at h
    rw [ready.getElem?_slots_place]
    by_cases hk : k = key
    · subst k
      rw [if_pos rfl] at h
      cases h
      obtain ⟨slot, hslot⟩ := ready.granted
      refine ⟨{ slot with keys := slot.keys.insert key }, ?_, LeaseSlot.mem_insert.2 (.inl rfl)⟩
      simp [hslot]
    · rw [if_neg hk] at h
      obtain ⟨slot, hslot, hmem⟩ := ready.kept h
      by_cases hl : entry.lease = held
      · refine ⟨{ slot with keys := slot.keys.insert key }, ?_, LeaseSlot.mem_insert.2 (.inr hmem)⟩
        rw [if_pos hl, ← hl, hslot]
        rfl
      · refine ⟨{ slot with keys := slot.keys.erase key }, ?_, LeaseSlot.mem_erase.2 ⟨hk, hmem⟩⟩
        rw [if_neg hl, hslot]
        exact LeaseSlot.without_of_mem hmem hk
  listed := by
    intro lease slot k hlease hmem
    rw [getElem?_entries_place]
    obtain ⟨old, hold, ⟨rfl, rfl⟩ | ⟨_, rfl, _⟩⟩ := ready.slot_of_place hlease
    · by_cases hk : k = key
      · exact ⟨value, if_pos hk⟩
      · obtain ⟨v, hentry⟩ := ready.listed hold ((LeaseSlot.mem_insert.1 hmem).resolve_left hk)
        exact ⟨v, (if_neg hk).trans hentry⟩
    · obtain ⟨hk, hmem⟩ := LeaseSlot.mem_erase.1 hmem
      obtain ⟨v, hentry⟩ := ready.listed hold hmem
      exact ⟨v, (if_neg hk).trans hentry⟩
  used := by
    intro lease slot hlease
    obtain ⟨old, _, ⟨_, rfl⟩ | ⟨_, _, some_key⟩⟩ := ready.slot_of_place hlease
    · exact ⟨key, LeaseSlot.mem_insert.2 (.inl rfl)⟩
    · exact some_key
  numbered := by
    intro lease slot hlease
    obtain ⟨old, hold, _⟩ := ready.slot_of_place hlease
    rw [lastLease_place]
    exact ready.numbered hold
  lasting := by
    intro lease slot hlease
    obtain ⟨old, hold, ⟨_, rfl⟩ | ⟨_, rfl, _⟩⟩ := ready.slot_of_place hlease
    · have lasts := ready.lasting hold
      exact lasts
    · have lasts := ready.lasting hold
      exact lasts
  counted := by
    rw [lastLease_place]
    exact ready.counted

theorem Ready.holding?_place {held : LeaseId} (ready : store.Ready held) {slot : LeaseSlot}
    (hslot : store.slots[held]? = some slot) (key : String) (value : Bytes) (k : String) :
    (store.place key value held).holding? k =
      if k = key then some ⟨value, held, slot.ttl, slot.deadline⟩ else store.holding? k := by
  unfold holding?
  rw [getElem?_entries_place]
  by_cases hk : k = key
  · rw [if_pos hk, if_pos hk]
    simp [ready.getElem?_slots_place, hslot]
  · rw [if_neg hk, if_neg hk]
    cases hentry : store.entries[k]? with
    | none => rfl
    | some entry =>
      obtain ⟨old, hold, hmem⟩ := ready.kept hentry
      simp only [Option.bind_some, ready.getElem?_slots_place, hold]
      by_cases hl : entry.lease = held
      · have same : slot = old := Option.some.inj (hslot.symm.trans (hl ▸ hold))
        simp [hl, hslot, same]
      · simp [hl, LeaseSlot.without_of_mem hmem hk]

/-! ### Leases for a write -/

theorem getElem?_slots_mint (now : Nat) (ttl : Ttl) (store : LeaseStore) (lease : LeaseId) :
    (store.mint now ttl).2.slots[lease]? =
      if lease = ⟨store.lastLease + 1⟩ then some { ttl := ttl.millis, deadline := now + ttl.millis }
      else store.slots[lease]? := by
  simp only [mint, Std.ExtTreeMap.getElem?_insert, Std.LawfulEqCmp.compare_eq_iff_eq]
  exact if_congr eq_comm rfl rfl

theorem Linked.ne_next (linked : store.Linked) {lease : LeaseId} {slot : LeaseSlot}
    (h : store.slots[lease]? = some slot) : lease ≠ ⟨store.lastLease + 1⟩ := by
  intro e
  have := (linked.numbered h).2
  rw [e] at this
  simp only at this
  omega

theorem Sound.ready_mint (sound : store.Sound) (now : Nat) (ttl : Ttl) :
    ((store.mint now ttl).2).Ready ⟨store.lastLease + 1⟩ where
  kept := by
    intro key entry h
    obtain ⟨slot, hslot, hkey⟩ := sound.kept h
    refine ⟨slot, ?_, hkey⟩
    rw [getElem?_slots_mint, if_neg (sound.ne_next hslot), hslot]
  listed := by
    intro lease slot key hlease hkey
    rw [getElem?_slots_mint] at hlease
    split at hlease
    · cases hlease
      simp at hkey
    · exact sound.listed hlease hkey
  numbered := by
    intro lease slot hlease
    have counted := sound.counted
    rw [getElem?_slots_mint] at hlease
    simp only [mint]
    split at hlease
    · rename_i e
      subst e
      simp only
      omega
    · have := sound.numbered hlease
      omega
  lasting := by
    intro lease slot hlease
    rw [getElem?_slots_mint] at hlease
    split at hlease
    · cases hlease
      exact ttl.millis_pos
    · exact sound.lasting hlease
  counted := by
    have := sound.counted
    simp only [mint]
    omega
  granted := ⟨_, (getElem?_slots_mint now ttl store _).trans (if_pos rfl)⟩
  used := by
    intro lease slot hlease other
    rw [getElem?_slots_mint, if_neg other] at hlease
    exact sound.used hlease

theorem Sound.holding?_mint (sound : store.Sound) (now : Nat) (ttl : Ttl) (key : String) :
    (store.mint now ttl).2.holding? key = store.holding? key := by
  unfold holding?
  simp only [getElem?_slots_mint]
  cases hentry : store.entries[key]? with
  | none => simp [mint, hentry]
  | some entry =>
    obtain ⟨slot, hslot, _⟩ := sound.kept hentry
    simp [mint, hentry, sound.ne_next hslot]

def restarted (now : Nat) (lease : LeaseId) (slot : LeaseSlot) (store : LeaseStore) : LeaseStore :=
  { store with slots := store.slots.insert lease { slot with deadline := now + slot.ttl } }

theorem getElem?_slots_restarted (now : Nat) (lease : LeaseId) (slot : LeaseSlot) (store : LeaseStore)
    (l : LeaseId) : (store.restarted now lease slot).slots[l]? =
      if l = lease then some { slot with deadline := now + slot.ttl } else store.slots[l]? := by
  simp only [restarted, Std.ExtTreeMap.getElem?_insert, Std.LawfulEqCmp.compare_eq_iff_eq]
  exact if_congr eq_comm rfl rfl

theorem slot_of_restarted {now : Nat} {lease l : LeaseId} {slot s : LeaseSlot}
    (hslot : store.slots[lease]? = some slot) (h : (store.restarted now lease slot).slots[l]? = some s) :
    ∃ old, store.slots[l]? = some old ∧ s.keys = old.keys ∧ s.ttl = old.ttl := by
  rw [getElem?_slots_restarted] at h
  split at h
  · rename_i e
    cases h
    exact ⟨slot, e ▸ hslot, rfl, rfl⟩
  · exact ⟨s, h, rfl, rfl⟩

theorem Sound.ready_restarted (sound : store.Sound) {lease : LeaseId} {slot : LeaseSlot}
    (hslot : store.slots[lease]? = some slot) (now : Nat) :
    (store.restarted now lease slot).Ready lease where
  kept := by
    intro key entry h
    obtain ⟨old, hold, hkey⟩ := sound.kept h
    rw [getElem?_slots_restarted]
    split
    · rename_i e
      rw [e, hslot] at hold
      cases hold
      exact ⟨_, rfl, hkey⟩
    · exact ⟨old, hold, hkey⟩
  listed := by
    intro l s key hl hkey
    obtain ⟨old, hold, keys, _⟩ := slot_of_restarted hslot hl
    exact sound.listed hold (keys ▸ hkey)
  numbered := by
    intro l s hl
    obtain ⟨old, hold, _⟩ := slot_of_restarted hslot hl
    exact sound.numbered hold
  lasting := by
    intro l s hl
    obtain ⟨old, hold, _, ttl⟩ := slot_of_restarted hslot hl
    rw [ttl]
    exact sound.lasting hold
  counted := sound.counted
  granted := ⟨_, (getElem?_slots_restarted now lease slot store lease).trans (if_pos rfl)⟩
  used := by
    intro l s hl _
    obtain ⟨old, hold, keys, _⟩ := slot_of_restarted hslot hl
    rw [keys]
    exact sound.used hold

theorem Sound.holding?_restarted (sound : store.Sound) {lease : LeaseId} {slot : LeaseSlot}
    (hslot : store.slots[lease]? = some slot) (now : Nat) (key : String) :
    (store.restarted now lease slot).holding? key =
      (store.holding? key).map (Holding.renewed now lease) := by
  unfold holding?
  simp only [getElem?_slots_restarted]
  cases hentry : store.entries[key]? with
  | none => simp [restarted, hentry]
  | some entry =>
    obtain ⟨old, hold, _⟩ := sound.kept hentry
    simp only [restarted, hentry, Option.bind_some, hold, Option.map_some, Holding.renewed]
    split
    · rename_i e
      rw [e, hslot] at hold
      cases hold
      rfl
    · rfl

/-! ### Removing a key -/

theorem getElem?_entries_remove (key : String) (store : LeaseStore) (k : String) :
    (store.remove key).entries[k]? = if k = key then none else store.entries[k]? := by
  unfold remove
  split
  · rename_i absent
    split
    · rename_i e
      rw [e, absent]
    · rfl
  · simp only [detach, Std.ExtTreeMap.getElem?_erase, Std.LawfulEqCmp.compare_eq_iff_eq]
    exact if_congr eq_comm rfl rfl

theorem lastLease_remove (key : String) (store : LeaseStore) :
    (store.remove key).lastLease = store.lastLease := by
  unfold remove
  split <;> rfl

theorem Sound.getElem?_slots_remove (sound : store.Sound) (key : String) (lease : LeaseId) :
    (store.remove key).slots[lease]? = store.slots[lease]?.bind (LeaseSlot.without key) := by
  have unchanged (h : ∀ entry, store.entries[key]? = some entry → entry.lease ≠ lease) :
      store.slots[lease]? = store.slots[lease]?.bind (LeaseSlot.without key) := by
    cases hslot : store.slots[lease]? with
    | none => rfl
    | some slot =>
      obtain ⟨k, hk⟩ := sound.used hslot
      have absent : key ∉ slot.keys := by
        intro listed
        obtain ⟨value, hentry⟩ := sound.listed hslot listed
        exact h _ hentry rfl
      exact (LeaseSlot.without_of_notMem hk absent).symm
  unfold remove
  cases hentry : store.entries[key]? with
  | none => exact unchanged (by simp [hentry])
  | some entry =>
    simp only [getElem?_slots_detach]
    split
    · rename_i left
      rw [left]
    · rename_i elsewhere
      apply unchanged
      intro entry' h
      rw [hentry] at h
      cases h
      exact elsewhere

theorem Sound.remove (sound : store.Sound) (key : String) : (store.remove key).Sound where
  kept := by
    intro k entry h
    rw [getElem?_entries_remove] at h
    rw [sound.getElem?_slots_remove]
    split at h
    · cases h
    · rename_i ne
      obtain ⟨slot, hslot, hmem⟩ := sound.kept h
      refine ⟨{ slot with keys := slot.keys.erase key }, ?_, LeaseSlot.mem_erase.2 ⟨ne, hmem⟩⟩
      rw [hslot]
      exact LeaseSlot.without_of_mem hmem ne
  listed := by
    intro lease slot k hlease hmem
    rw [sound.getElem?_slots_remove] at hlease
    obtain ⟨old, hold, hleft⟩ := Option.bind_eq_some_iff.1 hlease
    obtain ⟨rfl, _⟩ := LeaseSlot.without_eq_some hleft
    obtain ⟨ne, hmem⟩ := LeaseSlot.mem_erase.1 hmem
    obtain ⟨value, hentry⟩ := sound.listed hold hmem
    exact ⟨value, by rw [getElem?_entries_remove, if_neg ne, hentry]⟩
  numbered := by
    intro lease slot hlease
    rw [sound.getElem?_slots_remove] at hlease
    obtain ⟨old, hold, _⟩ := Option.bind_eq_some_iff.1 hlease
    rw [lastLease_remove]
    exact sound.numbered hold
  lasting := by
    intro lease slot hlease
    rw [sound.getElem?_slots_remove] at hlease
    obtain ⟨old, hold, hleft⟩ := Option.bind_eq_some_iff.1 hlease
    obtain ⟨rfl, _⟩ := LeaseSlot.without_eq_some hleft
    have := sound.lasting hold
    exact this
  counted := by
    rw [lastLease_remove]
    exact sound.counted
  used := by
    intro lease slot hlease
    rw [sound.getElem?_slots_remove] at hlease
    obtain ⟨old, _, hleft⟩ := Option.bind_eq_some_iff.1 hlease
    exact (LeaseSlot.without_eq_some hleft).2

theorem Sound.holding?_remove (sound : store.Sound) (key k : String) :
    (store.remove key).holding? k = if k = key then none else store.holding? k := by
  unfold holding?
  rw [getElem?_entries_remove]
  by_cases hk : k = key
  · rw [if_pos hk, if_pos hk]
    rfl
  · rw [if_neg hk, if_neg hk]
    cases hentry : store.entries[k]? with
    | none => rfl
    | some entry =>
      obtain ⟨slot, hslot, hmem⟩ := sound.kept hentry
      simp [sound.getElem?_slots_remove, hslot, LeaseSlot.without_of_mem hmem hk]

end LeaseStore

end VoterSession
