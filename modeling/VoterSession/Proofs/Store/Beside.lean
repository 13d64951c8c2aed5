import VoterSession.Proofs.Store.Keeping
set_option autoImplicit false

/-!
What a store shows when nothing but operations on one key came between: every other key is as it was, and the
lease that the operations name runs until a time of their own. Main statements: `Beside.put_none`,
`Beside.put_alive`, `Beside.delete`.
-/
namespace VoterSession

def Holding.endingAt (due : Nat) (lease : LeaseId) (holding : Holding) : Holding :=
  if holding.lease = lease then { holding with deadline := due } else holding

theorem Holding.endingAt_of_ne (due : Nat) {lease : LeaseId} {holding : Holding} (off : holding.lease ≠ lease) :
    holding.endingAt due lease = holding := if_neg off

theorem Holding.endingAt_deadline (lease : LeaseId) (holding : Holding) :
    holding.endingAt holding.deadline lease = holding := by
  unfold endingAt
  split <;> rfl

theorem Holding.endingAt_add (now : Nat) {lease : LeaseId} {holding : Holding} {life : Nat}
    (granted : holding.lease = lease → holding.ttl = life) :
    holding.endingAt (now + life) lease = holding.renewed now lease := by
  by_cases on : holding.lease = lease
  · rw [endingAt, renewed, if_pos on, if_pos on, granted on]
  · rw [endingAt_of_ne _ on, renewed_of_ne now on]

namespace LeaseStore

variable {store state : LeaseStore} {begun now due life : Nat} {key : String} {lease : LeaseId}

def LastsFor (store : LeaseStore) (now : Nat) (lease : LeaseId) (life : Nat) : Prop :=
  ∀ key holding, store.seen now key = some holding → holding.lease = lease → holding.ttl = life

/-- What `state` shows at `now` if it comes from `store` at `begun` by operations on `key` that name the lease:
the lease now runs until `due`, and what else is there is there no longer than its own lease. -/
structure Beside (store : LeaseStore) (begun : Nat) (key : String) (lease : LeaseId) (life due now : Nat)
    (state : LeaseStore) : Prop where
  sound : state.Sound
  others : ∀ k, k ≠ key → state.seen now k =
    ((store.seen begun k).map (Holding.endingAt due lease)).filter fun holding => now < holding.deadline
  own : ∀ holding, state.seen now key = some holding → holding.lease = lease →
    store.Alive begun lease ∧ holding.ttl = life ∧ holding.deadline = due

theorem seen_on_one_lease {other : String} {holding holding' : Holding}
    (shown : store.seen now key = some holding) (shown' : store.seen now other = some holding')
    (same : holding.lease = holding'.lease) :
    holding.ttl = holding'.ttl ∧ holding.deadline = holding'.deadline := by
  obtain ⟨slot, _, hslot, ttl, deadline⟩ := holding?_eq_some_iff.1 shown
  obtain ⟨slot', _, hslot', ttl', deadline'⟩ := holding?_eq_some_iff.1 shown'
  rw [same, hslot'] at hslot
  cases hslot
  exact ⟨ttl.trans ttl'.symm, deadline.trans deadline'.symm⟩

theorem Sound.beside_self (sound : store.Sound)
    (same : ∀ k holding, store.seen begun k = some holding → holding.lease = lease →
      store.Alive begun lease ∧ holding.ttl = life ∧ holding.deadline = due) :
    Beside store begun key lease life due begun store where
  sound := sound
  others := by
    intro k _
    cases shown : store.seen begun k with
    | none => rfl
    | some holding =>
      have kept : holding.endingAt due lease = holding := by
        by_cases on : holding.lease = lease
        · rw [← (same k holding shown on).2.2, Holding.endingAt_deadline]
        · exact Holding.endingAt_of_ne due on
      rw [Option.map_some, kept]
      simp [Option.filter, sound.seen_alive shown]
  own := same key

theorem Sound.beside_start (sound : store.Sound) (begun : Nat) (key : String) (lease : LeaseId) :
    ∃ life due, store.LastsFor begun lease life ∧ Beside store begun key lease life due begun store := by
  by_cases alive : store.Alive begun lease
  · obtain ⟨old, granted, hold, rfl⟩ := alive
    refine ⟨granted.ttl, granted.deadline, ?_, sound.beside_self ?_⟩
    · intro k holding shown same
      exact (seen_on_one_lease shown hold same).1
    · intro k holding shown same
      exact ⟨⟨old, granted, hold, rfl⟩, seen_on_one_lease shown hold same⟩
  · have absent : ∀ k holding, store.seen begun k = some holding → holding.lease ≠ lease :=
      fun k holding shown on => alive ⟨k, holding, shown, on⟩
    -- nothing is on the lease, and any two numbers will do
    exact ⟨0, 0, fun k holding shown on => absurd on (absent k holding shown),
      sound.beside_self fun k holding shown on => absurd on (absent k holding shown)⟩

theorem LastsFor.ttl (lasts : store.LastsFor now lease life) (alive : store.Alive now lease) :
    store.slots[lease]?.map LeaseSlot.ttl = some life := by
  obtain ⟨k, holding, shown, rfl⟩ := alive
  obtain ⟨slot, _, hslot, ttl, _⟩ := holding?_eq_some_iff.1 shown
  rw [getElem?_slots_purge] at hslot
  rw [(Option.filter_eq_some_iff.1 hslot).1, Option.map_some, ← lasts k holding shown rfl, ttl]

namespace Beside

variable (beside : Beside store begun key lease life due now state)

include beside

theorem later {time : Nat} (order : now ≤ time) : Beside store begun key lease life due time state where
  sound := beside.sound
  others := by
    intro k other
    rw [beside.sound.seen_later order, beside.others k other]
    exact filter_until Holding.deadline order _
  own := by
    intro holding shown
    exact beside.own holding (beside.sound.seen_mono order shown).1

theorem purge : Beside store begun key lease life due now (state.purge now) where
  sound := beside.sound.purge now
  others := by
    intro k other
    rw [beside.sound.seen_now_purge now k]
    exact beside.others k other
  own := by
    rw [beside.sound.seen_now_purge now key]
    exact beside.own

theorem on_lease (lasts : store.LastsFor begun lease life) (alive : state.Alive now lease) :
    ∃ old holding, state.seen now old = some holding ∧ holding.lease = lease ∧ holding.ttl = life ∧
      holding.deadline = due ∧ store.Alive begun lease := by
  obtain ⟨old, holding, shown, same⟩ := alive
  by_cases own : old = key
  · obtain ⟨alive, ttl, deadline⟩ := beside.own holding (own ▸ shown) same
    exact ⟨old, holding, shown, same, ttl, deadline, alive⟩
  · have before := shown
    rw [beside.others old own] at before
    obtain ⟨former, hold, ending⟩ := Option.map_eq_some_iff.1 (Option.filter_eq_some_iff.1 before).1
    have on : former.lease = lease := by
      by_contra off
      rw [Holding.endingAt_of_ne due off] at ending
      exact off (ending ▸ same)
    rw [Holding.endingAt, if_pos on] at ending
    subst ending
    exact ⟨old, _, shown, same, lasts old former hold on, rfl, old, former, hold, on⟩

theorem others_renewed (lasts : store.LastsFor begun lease life) (lasting : now < due) (positive : 0 < life)
    {k : String} (other : k ≠ key) : (state.seen now k).map (Holding.renewed now lease) =
      ((store.seen begun k).map (Holding.endingAt (now + life) lease)).filter
        fun holding => now < holding.deadline := by
  rw [beside.others k other]
  cases shown : store.seen begun k with
  | none => rfl
  | some holding =>
    by_cases on : holding.lease = lease
    · -- whatever deadline the key had at first, what counts is when the lease now ends
      have ttl := lasts k holding shown on
      simp [Holding.endingAt, Holding.renewed, on, Option.filter, lasting, positive, ttl]
    · by_cases ends : now < holding.deadline
      · simp [Holding.endingAt, Holding.renewed, on, Option.filter, ends]
      · simp [Holding.endingAt, on, Option.filter, ends]

theorem put_alive (lasts : store.LastsFor begun lease life) (alive : state.Alive now lease) (value : Bytes)
    (ttl : Ttl) : ∃ after, state.step now (.put key value lease ttl) = (.ok (), after) ∧
      after.lastLease = state.lastLease ∧ store.Alive begun lease ∧
      after.seen now key = some ⟨value, lease, life, now + life⟩ ∧
      Beside store begun key lease life (now + life) now after := by
  obtain ⟨old, holding, hold, rfl, rfl, rfl, before⟩ := beside.on_lease lasts alive
  obtain ⟨after, hstep, sound, counted, shown⟩ :=
    @Sound.step_put_alive state beside.sound now key old holding value ttl hold
  have written : after.seen now key = some ⟨value, holding.lease, holding.ttl, now + holding.ttl⟩ :=
    (shown key).trans (if_pos rfl)
  have positive := sound.seen_alive written
  simp only at positive
  refine ⟨after, hstep, counted, before, written, sound, ?_, ?_⟩
  · intro k other
    rw [shown k, if_neg other]
    exact beside.others_renewed lasts (beside.sound.seen_alive hold) (by omega) other
  · intro own same _
    rw [written] at same
    cases same
    exact ⟨before, rfl, rfl⟩

end Beside

theorem Beside.put_none (beside : Beside store begun key .none life due now state) (value : Bytes) (ttl : Ttl) :
    ∃ after, state.step now (.put key value .none ttl) = (.ok (), after) ∧
      after.lastLease = state.lastLease + 1 ∧
      after.seen now key = some ⟨value, ⟨state.lastLease + 1⟩, ttl.millis, now + ttl.millis⟩ ∧
      Beside store begun key .none life due now after := by
  obtain ⟨after, hstep, sound, counted, shown⟩ := beside.sound.step_put_none now key value ttl
  refine ⟨after, hstep, counted, (shown key).trans (if_pos rfl), sound, ?_, ?_⟩
  · intro k other
    rw [shown k, if_neg other]
    exact beside.others k other
  · intro holding own unnamed
    exact absurd ⟨key, holding, own, unnamed⟩ (sound.not_alive_none now)

theorem Beside.delete (beside : Beside store begun key .none life due now state) :
    ∃ after, state.step now (.delete key) = (.ok (), after) ∧ after.seen now key = none ∧
      Beside store begun key .none life due now after := by
  obtain ⟨after, hstep, sound, _, shown⟩ := beside.sound.step_delete now key
  have removed : after.seen now key = none := (shown key).trans (if_pos rfl)
  refine ⟨after, hstep, removed, sound, ?_, ?_⟩
  · intro k other
    rw [shown k, if_neg other]
    exact beside.others k other
  · intro holding own
    rw [removed] at own
    cases own

theorem map_endingAt_add (lasts : store.LastsFor begun lease life) (now : Nat) (k : String) :
    (store.seen begun k).map (Holding.endingAt (now + life) lease) =
      (store.seen begun k).map (Holding.renewed now lease) := by
  cases shown : store.seen begun k with
  | none => rfl
  | some holding => exact congrArg some (Holding.endingAt_add now (lasts k holding shown))

theorem Sound.map_endingAt_none (sound : store.Sound) (begun due : Nat) (k : String) :
    (store.seen begun k).map (Holding.endingAt due .none) = store.seen begun k := by
  cases shown : store.seen begun k with
  | none => rfl
  | some holding =>
    have off : holding.lease ≠ .none := fun on => sound.not_alive_none begun ⟨k, holding, shown, on⟩
    rw [Option.map_some, Holding.endingAt_of_ne due off]

end LeaseStore

end VoterSession
