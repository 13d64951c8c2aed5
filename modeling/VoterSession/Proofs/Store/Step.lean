import VoterSession.Proofs.Store.Operation
set_option autoImplicit false

/-!
One operation of the lease store as its callers see it: what `seen` shows before and after, what the
operation answers, and how the numbering of leases goes on. Nothing outside this module opens the
operation again.
-/
namespace VoterSession

namespace LeaseStore

variable {store : LeaseStore}

def Alive (now : Nat) (lease : LeaseId) (store : LeaseStore) : Prop :=
  ∃ key holding, store.seen now key = some holding ∧ holding.lease = lease

theorem seen_empty (now : Nat) (key : String) : empty.seen now key = none := by
  rw [sound_empty.seen_eq]
  simp [holding?, empty]

theorem Sound.seen_alive (sound : store.Sound) {now : Nat} {key : String} {holding : Holding}
    (h : store.seen now key = some holding) : now < holding.deadline := by
  rw [sound.seen_eq] at h
  simpa using (Option.filter_eq_some_iff.1 h).2

theorem Sound.seen_numbered (sound : store.Sound) {now : Nat} {key : String} {holding : Holding}
    (h : store.seen now key = some holding) :
    1 ≤ holding.lease.number ∧ holding.lease.number ≤ store.lastLease :=
  (sound.purge now).numbered_of_holding h

theorem Sound.seen_later (sound : store.Sound) {now later : Nat} (h : now ≤ later) (key : String) :
    store.seen later key = (store.seen now key).filter fun holding => later < holding.deadline := by
  cases hnow : store.seen now key with
  | none =>
    cases hlater : store.seen later key with
    | none => rfl
    | some holding =>
      rw [(sound.seen_mono h hlater).1] at hnow
      cases hnow
  | some holding =>
    rw [sound.seen_eq] at hnow ⊢
    rw [(Option.filter_eq_some_iff.1 hnow).1]

theorem Sound.slot_iff_alive (sound : store.Sound) (now : Nat) (lease : LeaseId) :
    (store.purge now).slots[lease]?.isSome ↔ store.Alive now lease := by
  constructor
  · intro h
    obtain ⟨slot, hslot⟩ := Option.isSome_iff_exists.1 h
    obtain ⟨key, value, hh, _⟩ := (sound.purge now).holding?_of_slot hslot
    exact ⟨key, _, hh, rfl⟩
  · rintro ⟨key, holding, hh, rfl⟩
    obtain ⟨slot, _, hslot, _⟩ := holding?_eq_some_iff.1 hh
    rw [hslot]
    rfl

theorem Sound.alive_of_later (sound : store.Sound) {now later : Nat} (order : now ≤ later) {lease : LeaseId}
    (alive : store.Alive later lease) : store.Alive now lease := by
  obtain ⟨key, holding, shown, same⟩ := alive
  exact ⟨key, holding, (sound.seen_mono order shown).1, same⟩

theorem Sound.not_alive_none (sound : store.Sound) (now : Nat) : ¬ store.Alive now .none := by
  rintro ⟨key, holding, shown, unnamed⟩
  have numbered := (sound.seen_numbered shown).1
  rw [unnamed, LeaseId.none] at numbered
  simp only at numbered
  omega

theorem Sound.not_alive_of_lt (sound : store.Sound) (now : Nat) {lease : LeaseId}
    (ungranted : store.lastLease < lease.number) : ¬ store.Alive now lease := by
  rintro ⟨key, holding, shown, rfl⟩
  have numbered := (sound.seen_numbered shown).2
  omega

theorem map_renewed_of_dead {now : Nat} {lease : LeaseId} (dead : ¬ store.Alive now lease) (key : String) :
    (store.seen now key).map (Holding.renewed now lease) = store.seen now key := by
  cases shown : store.seen now key with
  | none => rfl
  | some holding =>
    rw [Option.map_some, Holding.renewed_of_ne now fun same => dead ⟨key, holding, shown, same⟩]

theorem Sound.timeToLive_eq_none_iff (sound : store.Sound) {now : Nat} {lease : LeaseId} :
    (store.timeToLive now lease).1 = none ↔ ¬ store.Alive now lease := by
  rw [← sound.slot_iff_alive, Option.not_isSome_iff_eq_none]
  exact Option.map_eq_none_iff

theorem timeToLive_of_seen {now : Nat} {key : String} {holding : Holding}
    (h : store.seen now key = some holding) :
    (store.timeToLive now holding.lease).1 = some (holding.deadline - now) := by
  obtain ⟨slot, _, hslot, _, hdeadline⟩ := holding?_eq_some_iff.1 h
  simp only [timeToLive, hslot, Option.map_some, hdeadline]

/-! ### Reading -/

theorem Sound.step_get (sound : store.Sound) (now : Nat) (key : String) :
    store.step now (.get key) = (.ok ((store.seen now key).map Holding.stored), store.purge now) := by
  simp only [step, (sound.purge now).entry_eq]
  rfl

theorem Sound.seen_now_purge (sound : store.Sound) (now : Nat) (key : String) :
    (store.purge now).seen now key = store.seen now key := sound.seen_purge (Nat.le_refl now) key

/-! ### Writing -/

theorem Sound.step_put_none (sound : store.Sound) (now : Nat) (key : String) (value : Bytes) (ttl : Ttl) :
    ∃ after, store.step now (.put key value .none ttl) = (.ok (), after) ∧ after.Sound ∧
      after.lastLease = store.lastLease + 1 ∧ ∀ k, after.seen now k =
        if k = key then some ⟨value, ⟨store.lastLease + 1⟩, ttl.millis, now + ttl.millis⟩
        else store.seen now k := by
  have live := sound.purge now
  have ready := live.ready_mint now ttl
  refine ⟨_, rfl, ready.sound_place key value, ?_, ?_⟩
  · exact lastLease_place key value _ _
  · intro k
    have hslot := (getElem?_slots_mint now ttl (store.purge now) _).trans (if_pos rfl)
    refine ((ready.sound_place key value).seen_eq now k).trans ?_
    rw [ready.holding?_place hslot, live.holding?_mint]
    by_cases hk : k = key
    · have := ttl.millis_pos
      rw [if_pos hk, if_pos hk]
      simp [Option.filter, this]
      rfl
    · rw [if_neg hk, if_neg hk, ← seen]
      cases hseen : store.seen now k with
      | none => rfl
      | some holding => simp [Option.filter, sound.seen_alive hseen]

/-- A write on a lease that is alive starts the lease anew for as long as it was granted for. -/
theorem Sound.step_put_alive (sound : store.Sound) {now : Nat} {key old : String} {holding : Holding}
    (value : Bytes) (ttl : Ttl) (h : store.seen now old = some holding) :
    ∃ after, store.step now (.put key value holding.lease ttl) = (.ok (), after) ∧ after.Sound ∧
      after.lastLease = store.lastLease ∧ ∀ k, after.seen now k =
        if k = key then some ⟨value, holding.lease, holding.ttl, now + holding.ttl⟩
        else (store.seen now k).map (Holding.renewed now holding.lease) := by
  have live := sound.purge now
  obtain ⟨slot, _, hslot, httl, _⟩ := holding?_eq_some_iff.1 h
  have lasting := live.lasting hslot
  have ready := live.ready_restarted hslot now
  have numbered := (live.numbered hslot).1
  have named : holding.lease.isNone = false := by
    rw [LeaseId.isNone, beq_eq_false_iff_ne]
    omega
  refine ⟨_, ?_, ready.sound_place key value, ?_, ?_⟩
  · simp only [step, acquire, renew, named, hslot]
    rfl
  · exact lastLease_place key value _ _
  · intro k
    have hslot' := (getElem?_slots_restarted now holding.lease slot (store.purge now) _).trans
      (if_pos rfl)
    rw [(ready.sound_place key value).seen_eq, ready.holding?_place hslot', live.holding?_restarted hslot,
      ← seen, httl]
    by_cases hk : k = key
    · rw [if_pos hk]
      simp [Option.filter, lasting]
    · rw [if_neg hk]
      cases hseen : store.seen now k with
      | none => rfl
      | some other =>
        have alive := sound.seen_alive hseen
        obtain ⟨slot', _, hslot', httl', _⟩ := holding?_eq_some_iff.1 hseen
        have lasting' := live.lasting hslot'
        simp only [Option.map_some, Holding.renewed]
        split <;> simp [Option.filter] <;> omega

theorem Sound.step_put_dead (sound : store.Sound) {now : Nat} {lease : LeaseId} (key : String)
    (value : Bytes) (ttl : Ttl) (named : lease ≠ .none) (dead : ¬ store.Alive now lease) :
    store.step now (.put key value lease ttl) = (.error (.leaseNotFound lease), store.purge now) := by
  have missing : (store.purge now).slots[lease]? = none := by
    rw [← Option.not_isSome_iff_eq_none, sound.slot_iff_alive]
    exact dead
  have unnamed : lease.isNone = false := by
    rw [LeaseId.isNone, beq_eq_false_iff_ne]
    intro zero
    apply named
    cases lease
    simp only at zero
    rw [zero, LeaseId.none]
  simp [step, acquire, renew, unnamed, missing]

/-! ### Removing -/

theorem Sound.step_delete (sound : store.Sound) (now : Nat) (key : String) :
    ∃ after, store.step now (.delete key) = (.ok (), after) ∧ after.Sound ∧
      after.lastLease = store.lastLease ∧
      ∀ k, after.seen now k = if k = key then none else store.seen now k := by
  have live := sound.purge now
  refine ⟨_, rfl, live.remove key, lastLease_remove key _, ?_⟩
  intro k
  refine ((live.remove key).seen_eq now k).trans ?_
  rw [live.holding?_remove, ← seen]
  by_cases hk : k = key
  · rw [if_pos hk]
    rfl
  · rw [if_neg hk]
    cases hseen : store.seen now k with
    | none => rfl
    | some holding => simp [Option.filter, sound.seen_alive hseen]

theorem Sound.step_sound (sound : store.Sound) (now : Nat) {α : Type} (op : StoreOp α) :
    (store.step now op).2.Sound := by
  cases op with
  | get key => exact sound.purge now
  | put key value lease ttl =>
    by_cases named : lease = .none
    · obtain ⟨after, hstep, hsound, _⟩ := sound.step_put_none now key value ttl
      rw [named, hstep]
      exact hsound
    · by_cases alive : store.Alive now lease
      · obtain ⟨old, holding, hseen, rfl⟩ := alive
        obtain ⟨after, hstep, hsound, _⟩ := sound.step_put_alive value ttl hseen
        rw [hstep]
        exact hsound
      · rw [sound.step_put_dead key value ttl named alive]
        exact sound.purge now
  | delete key =>
    obtain ⟨after, hstep, hsound, _⟩ := sound.step_delete now key
    rw [hstep]
    exact hsound

/-! ### Numbering -/

theorem lastLease_le_acquire {now : Nat} {lease held : LeaseId} {ttl : Ttl} {store leased : LeaseStore}
    (h : store.acquire now lease ttl = some (held, leased)) : store.lastLease ≤ leased.lastLease := by
  unfold acquire at h
  split at h
  · cases h
    exact Int.le_add_one (Int.le_refl _)
  · obtain ⟨renewed, hrenew, same⟩ := Option.map_eq_some_iff.1 h
    obtain ⟨slot, _, rfl⟩ := Option.map_eq_some_iff.1 hrenew
    cases same
    exact Int.le_refl _

theorem lastLease_le_step {α : Type} (now : Nat) (op : StoreOp α) (store : LeaseStore) :
    store.lastLease ≤ (store.step now op).2.lastLease := by
  cases op with
  | get key => exact Int.le_refl _
  | put key value lease ttl =>
    simp only [step]
    split
    · exact Int.le_refl _
    · rename_i held leased hacquire
      have granted := lastLease_le_acquire hacquire
      exact Int.le_trans granted (Int.le_of_eq (lastLease_place ..).symm)
  | delete key => exact Int.le_of_eq (lastLease_remove key (store.purge now)).symm

end LeaseStore

end VoterSession
