import VoterSession.Proofs.Store.Keeping
set_option autoImplicit false

/-!
A write or a removal under one key, and the keys beside it, which may share a lease with it. Main statement:
`write_spares_other_keys`. Runs that leave a key and its lease alone: `seen_through` and `absent_through`.
-/
namespace VoterSession

namespace LeaseStore

variable {store : LeaseStore} {now : Nat} {lease : LeaseId} {slot : LeaseSlot}

theorem Sound.mem_keys_iff (sound : store.Sound) (hslot : store.slots[lease]? = some slot)
    (lasting : now < slot.deadline) (key : String) :
    key ∈ slot.keys ↔ ∃ holding, store.seen now key = some holding ∧ holding.lease = lease := by
  constructor
  · intro listed
    obtain ⟨value, hentry⟩ := sound.listed hslot listed
    have held : store.holding? key = some ⟨value, lease, slot.ttl, slot.deadline⟩ :=
      holding?_eq_some_iff.2 ⟨slot, hentry, hslot, rfl, rfl⟩
    refine ⟨⟨value, lease, slot.ttl, slot.deadline⟩, ?_, rfl⟩
    rw [sound.seen_eq, held]
    simp [Option.filter, lasting]
  · rintro ⟨holding, shown, rfl⟩
    rw [sound.seen_eq] at shown
    obtain ⟨_, hentry, _⟩ := holding?_eq_some_iff.1 (Option.filter_eq_some_iff.1 shown).1
    obtain ⟨own, hown, listed⟩ := sound.kept hentry
    obtain rfl : slot = own := Option.some.inj (hslot.symm.trans hown)
    exact listed

theorem Sound.alive_iff_lasting (sound : store.Sound) (hslot : store.slots[lease]? = some slot) :
    store.Alive now lease ↔ now < slot.deadline := by
  constructor
  · rintro ⟨key, holding, shown, rfl⟩
    have lasting := sound.seen_alive shown
    rw [sound.seen_eq] at shown
    obtain ⟨own, _, hown, _, deadline⟩ := holding?_eq_some_iff.1 (Option.filter_eq_some_iff.1 shown).1
    obtain rfl : slot = own := Option.some.inj (hslot.symm.trans hown)
    rwa [← deadline]
  · intro lasting
    obtain ⟨key, listed⟩ := sound.used hslot
    obtain ⟨holding, shown, same⟩ := (sound.mem_keys_iff hslot lasting key).1 listed
    exact ⟨key, holding, shown, same⟩

theorem Sound.succeeds_of_alive (sound : store.Sound) {α : Type} (op : StoreOp α)
    (alive : store.Alive now op.named) : ∃ answer, (store.step now op).1 = .ok answer := by
  cases op with
  | get key => exact ⟨_, rfl⟩
  | put key value lease ttl =>
    obtain ⟨old, holding, shown, same⟩ := alive
    rw [StoreOp.named] at same
    subst same
    obtain ⟨after, hstep, _⟩ := sound.step_put_alive value ttl shown
    rw [hstep]
    exact ⟨(), rfl⟩
  | delete key => exact ⟨(), rfl⟩

/-- An operation leaves a lease without life when the deadline has come, or when its key was the only one on
the lease and is so no longer. -/
theorem Sound.ended_iff (sound : store.Sound) (hslot : store.slots[lease]? = some slot) {α : Type}
    (op : StoreOp α) : ¬ (store.step now op).2.Alive now lease ↔ slot.deadline ≤ now ∨
      (∀ key, key ∈ slot.keys ↔ key = op.key) ∧
        ∀ holding, (store.step now op).2.seen now op.key = some holding → holding.lease ≠ lease := by
  constructor
  · intro ended
    by_cases late : slot.deadline ≤ now
    · exact .inl late
    · have attached := sound.mem_keys_iff hslot (Nat.lt_of_not_le late)
      have alone : ∀ key, key ∈ slot.keys → key = op.key := by
        intro key listed
        by_contra other
        obtain ⟨holding, shown, same⟩ := (attached key).1 listed
        refine ended ⟨key, holding.renewed now op.named, ?_, ?_⟩
        · rw [sound.step_elsewhere now op other, shown, Option.map_some]
        · rw [Holding.renewed_lease, same]
      refine .inr ⟨fun key => ⟨alone key, ?_⟩, ?_⟩
      · rintro rfl
        obtain ⟨key, listed⟩ := sound.used hslot
        exact alone key listed ▸ listed
      · intro holding shown same
        exact ended ⟨op.key, holding, shown, same⟩
  · intro why alive
    obtain before | granted := sound.alive_step alive
    · have lasting := (sound.alive_iff_lasting hslot).1 before
      obtain late | ⟨alone, left⟩ := why
      · omega
      · obtain ⟨key, holding, shown, same⟩ := alive
        by_cases own : key = op.key
        · exact left holding (own ▸ shown) same
        · rw [sound.step_elsewhere now op own] at shown
          obtain ⟨former, hold, rfl⟩ := Option.map_eq_some_iff.1 shown
          rw [Holding.renewed_lease] at same
          exact own ((alone key).1 ((sound.mem_keys_iff hslot lasting key).2 ⟨former, hold, same⟩))
    · have numbered := (sound.numbered hslot).2
      omega

/-- A write or a removal under one key, whether it succeeds or is refused, leaves every other live key with its
value and its lease. The lease ends when it did before, or, if it is the one that the write names, the write
succeeds and it lasts once more as long as it was granted for. What was not live does not come back, and a lease
ends only at its deadline or with the only key that was on it. -/
theorem write_spares_other_keys {since : Nat} {store : LeaseStore} (reached : Reached since store) (now : Nat)
    (op : StoreOp Unit) :
    (∀ key holding, key ≠ op.key → store.seen now key = some holding →
      (store.step now op).2.seen now key = some (holding.renewed now op.named) ∧
      (op.named = holding.lease → (store.step now op).1 = .ok ())) ∧
    (∀ key, key ≠ op.key → store.seen now key = none → (store.step now op).2.seen now key = none) ∧
    ∀ lease slot, store.slots[lease]? = some slot →
      (¬ (store.step now op).2.Alive now lease ↔ slot.deadline ≤ now ∨
        (∀ key, key ∈ slot.keys ↔ key = op.key) ∧
          ∀ holding, (store.step now op).2.seen now op.key = some holding → holding.lease ≠ lease) := by
  have sound := reached.upheld.toSound
  refine ⟨?_, ?_, fun lease slot hslot => sound.ended_iff hslot op⟩
  · intro key holding other shown
    refine ⟨?_, ?_⟩
    · rw [sound.step_elsewhere now op other, shown, Option.map_some]
    · intro named
      exact (sound.succeeds_of_alive op ⟨key, holding, shown, named.symm⟩).elim fun _ answered => answered
  · intro key other absent
    rw [sound.step_elsewhere now op other, absent, Option.map_none]

def sharedLease : LeaseStore :=
  empty.through [(0, .put "first" [1] .none { seconds := 11 }),
    (100, .put "second" [2] ⟨1⟩ { seconds := 80 }), (200, .put "third" [3] .none { seconds := 7 })]

theorem moving_key_spares_the_others : Reached 200 sharedLease ∧
    let moved := sharedLease.step 300 (.put "first" [4] ⟨2⟩ { seconds := 8 })
    moved.1 = .ok () ∧
    sharedLease.seen 300 "second" = some ⟨[2], ⟨1⟩, 11000, 11100⟩ ∧
    moved.2.seen 300 "second" = some ⟨[2], ⟨1⟩, 11000, 11100⟩ ∧
    sharedLease.seen 300 "third" = some ⟨[3], ⟨2⟩, 7000, 7200⟩ ∧
    moved.2.seen 300 "third" = some ⟨[3], ⟨2⟩, 7000, 7300⟩ := by
  have reached : Reached 200 sharedLease :=
    .act (.act (.act .start (Nat.le_refl 0) _) (by decide) _) (by decide) _
  obtain ⟨spared, _⟩ :=
    write_spares_other_keys reached 300 (.put "first" [4] ⟨2⟩ { seconds := 8 })
  have second : sharedLease.seen 300 "second" = some ⟨[2], ⟨1⟩, 11000, 11100⟩ := by decide +kernel
  have third : sharedLease.seen 300 "third" = some ⟨[3], ⟨2⟩, 7000, 7200⟩ := by decide +kernel
  obtain ⟨kept, _⟩ := spared "second" _ (by decide) second
  obtain ⟨renewed, success⟩ := spared "third" _ (by decide) third
  exact ⟨reached, success rfl, second, kept, third, renewed⟩

end LeaseStore

/-! ### Actions beside a key -/

def StoreAction.Spares (key : String) (lease : LeaseId) : StoreAction → Prop
  | .put other _ named _ => other ≠ key ∧ named ≠ lease
  | .delete other => other ≠ key
  | _ => True

instance (key : String) (lease : LeaseId) (action : StoreAction) : Decidable (action.Spares key lease) := by
  unfold StoreAction.Spares
  split <;> infer_instance

def StoreAction.Leaves (key : String) : StoreAction → Prop
  | .put other .. => other ≠ key
  | _ => True

instance (key : String) (action : StoreAction) : Decidable (action.Leaves key) := by
  unfold StoreAction.Leaves
  split <;> infer_instance

namespace LeaseStore

variable {store : LeaseStore} {now time : Nat} {key : String} {lease : LeaseId}

theorem Sound.seen_spared (sound : store.Sound) {action : StoreAction} (spares : action.Spares key lease)
    (on : ∀ holding, store.seen time key = some holding → holding.lease = lease) :
    (store.perform time action).2.seen time key = store.seen time key := by
  cases action with
  | put other value named ttl =>
    refine (sound.step_elsewhere time (.put other value named ttl) spares.1.symm).trans ?_
    cases shown : store.seen time key with
    | none => rfl
    | some holding =>
      exact congrArg some (Holding.renewed_of_ne time fun same => spares.2 (same.symm.trans (on holding shown)))
  | delete other =>
    obtain ⟨after, hstep, _, _, seen⟩ := sound.step_delete time other
    have left : (store.perform time (.delete other)).2 = after := congrArg Prod.snd hstep
    rw [left, seen, if_neg (Ne.symm spares)]
  | get | timeToLive | liveKeys | liveLeases | expire => exact sound.seen_now_purge time key

theorem Sound.seen_left (sound : store.Sound) {action : StoreAction} (leaves : action.Leaves key)
    (absent : store.seen time key = none) : (store.perform time action).2.seen time key = none := by
  cases action with
  | put other value named ttl =>
    refine (sound.step_elsewhere time (.put other value named ttl) (Ne.symm leaves)).trans ?_
    rw [absent, Option.map_none]
  | delete other =>
    obtain ⟨after, hstep, _, _, seen⟩ := sound.step_delete time other
    have left : (store.perform time (.delete other)).2 = after := congrArg Prod.snd hstep
    rw [left, seen, absent, ite_self]
  | get | timeToLive | liveKeys | liveLeases | expire => exact (sound.seen_now_purge time key).trans absent

variable {actions : List (Nat × StoreAction)}
  (ordered : (now :: (actions.map Prod.fst ++ [time])).Pairwise (· ≤ ·))

include ordered

theorem Sound.seen_through (sound : store.Sound) (spares : ∀ action ∈ actions, action.2.Spares key lease)
    (on : ∀ holding, store.seen now key = some holding → holding.lease = lease) :
    (store.through actions).seen time key = store.seen time key := by
  induction actions generalizing store now with
  | nil => rfl
  | cons first rest ih =>
    obtain ⟨begun, action⟩ := first
    obtain ⟨earlier, ordered⟩ := List.pairwise_cons.1 ordered
    have early : now ≤ begun := earlier begun List.mem_cons_self
    have late : begun ≤ time := (List.pairwise_cons.1 ordered).1 time (by simp)
    have still (holding : Holding) (shown : store.seen begun key = some holding) : holding.lease = lease :=
      on holding (sound.seen_mono early shown).1
    have kept := sound.seen_spared (spares _ List.mem_cons_self) still
    have sound' := (sound.perform begun action).1
    have later := ih ordered sound' (fun action member => spares action (List.mem_cons_of_mem _ member))
      fun holding shown => still holding (kept ▸ shown)
    rw [through_cons, later, sound'.seen_later late, kept, ← sound.seen_later late]

theorem Sound.absent_through (sound : store.Sound) (leaves : ∀ action ∈ actions, action.2.Leaves key)
    (absent : store.seen now key = none) : (store.through actions).seen time key = none := by
  induction actions generalizing store now with
  | nil =>
    have order : now ≤ time := (List.pairwise_cons.1 ordered).1 time List.mem_cons_self
    rw [through_nil, sound.seen_later order, absent]
    rfl
  | cons first rest ih =>
    obtain ⟨begun, action⟩ := first
    obtain ⟨earlier, ordered⟩ := List.pairwise_cons.1 ordered
    have gone : store.seen begun key = none := by
      rw [sound.seen_later (earlier begun List.mem_cons_self), absent]
      rfl
    exact ih ordered (sound.perform begun action).1 (fun action member => leaves action (List.mem_cons_of_mem _ member))
      (sound.seen_left (leaves _ List.mem_cons_self) gone)

end LeaseStore

end VoterSession
