import VoterSession.Proofs.Store.Representation
set_option autoImplicit false

/-!
What one operation of the lease store does to the keys that it is not about, and which leases are alive after
it. Main statements: `Kept.step` and `Sound.alive_step`.
-/
namespace VoterSession

def StoreOp.action {α : Type} : StoreOp α → StoreAction
  | get key => .get key
  | put key value lease ttl => .put key value lease ttl
  | delete key => .delete key

def StoreOp.named {α : Type} : StoreOp α → LeaseId
  | put _ _ lease _ => lease
  | get _ | delete _ => .none

def StoreOp.reply {α : Type} : StoreOp α → Except StoreError α → StoreReply
  | get _, outcome => .ofResult .found outcome
  | put .., outcome => .ofResult (fun _ => .done) outcome
  | delete _, outcome => .ofResult (fun _ => .done) outcome

namespace LeaseStore

variable {store : LeaseStore} {α : Type}

theorem perform_action (now : Nat) (op : StoreOp α) :
    store.perform now op.action = (op.reply (store.step now op).1, (store.step now op).2) := by
  cases op <;> rfl

def through (actions : List (Nat × StoreAction)) (store : LeaseStore) : LeaseStore :=
  actions.foldl (fun store action => (store.perform action.1 action.2).2) store

@[simp] theorem through_nil (store : LeaseStore) : store.through [] = store := rfl

@[simp] theorem through_cons (now : Nat) (action : StoreAction) (rest : List (Nat × StoreAction))
    (store : LeaseStore) :
    store.through ((now, action) :: rest) = (store.perform now action).2.through rest := rfl

theorem Sound.through (sound : store.Sound) (actions : List (Nat × StoreAction)) :
    (store.through actions).Sound := by
  induction actions generalizing store with
  | nil => exact sound
  | cons action rest ih => exact ih (sound.perform action.1 action.2).1

theorem Upheld.step {last now : Nat} (upheld : store.Upheld last) (order : last ≤ now) (op : StoreOp α) :
    (store.step now op).2.Upheld now := by
  have performed := upheld.perform order op.action
  rw [perform_action] at performed
  exact performed

theorem Upheld.seen_bounded {last now : Nat} (upheld : store.Upheld last) (order : last ≤ now) {key : String}
    {holding : Holding} (h : store.seen now key = some holding) :
    holding.deadline ≤ now + holding.ttl := by
  obtain ⟨slot, _, hslot, ttl, deadline⟩ := holding?_eq_some_iff.1 h
  rw [getElem?_slots_purge] at hslot
  have bound := upheld.bounded (Option.filter_eq_some_iff.1 hslot).1
  omega

theorem filter_until {β : Type} (deadline : β → Nat) {now later : Nat} (order : now ≤ later) (shown : Option β) :
    ((shown.filter fun b => now < deadline b).filter fun b => later < deadline b) =
      shown.filter fun b => later < deadline b := by
  rw [Option.filter_filter]
  congr 1
  funext b
  rw [← Bool.decide_and]
  exact decide_eq_decide.2 ⟨fun h => h.2, fun h => ⟨by omega, h⟩⟩

theorem Sound.purge_purge (sound : store.Sound) {now later : Nat} (order : now ≤ later) :
    (store.purge now).purge later = store.purge later := by
  have entries : ((store.purge now).purge later).entries = (store.purge later).entries := by
    apply Std.ExtTreeMap.ext_getElem?
    intro key
    rw [((sound.purge now).purge later).entry_eq, (sound.purge later).entry_eq]
    exact congrArg (Option.map Holding.stored) (sound.seen_purge order key)
  have slots : ((store.purge now).purge later).slots = (store.purge later).slots := by
    apply Std.ExtTreeMap.ext_getElem?
    intro lease
    rw [getElem?_slots_purge, getElem?_slots_purge, getElem?_slots_purge]
    exact filter_until LeaseSlot.deadline order _
  exact (mk.injEq ..).mpr ⟨entries, slots, rfl⟩

/-! ### Other keys -/

/-- At `now` the holding is what it was, if its lease has time left. The lease may have been started anew. -/
def Kept (now : Nat) : Option Holding → Option Holding → Prop
  | none, shown => shown = none
  | some holding, shown => ∃ deadline, holding.deadline ≤ deadline ∧
      shown = if now < deadline then some { holding with deadline } else none

theorem Sound.keeps (sound : store.Sound) (now : Nat) (key : String) :
    Kept now (store.seen now key) (store.seen now key) := by
  cases shown : store.seen now key with
  | none => rfl
  | some holding => exact ⟨holding.deadline, Nat.le_refl _, (if_pos (sound.seen_alive shown)).symm⟩

theorem Kept.later {old : Option Holding} {now time : Nat} {key : String} (sound : store.Sound)
    (kept : Kept now old (store.seen now key)) (order : now ≤ time) : Kept time old (store.seen time key) := by
  rw [sound.seen_later order]
  cases old with
  | none =>
    have absent : store.seen now key = none := kept
    rw [absent]
    rfl
  | some holding =>
    obtain ⟨deadline, bound, shown⟩ := kept
    refine ⟨deadline, bound, ?_⟩
    rw [shown]
    by_cases lasting : time < deadline
    · rw [if_pos lasting, if_pos (by omega)]
      simp [Option.filter, lasting]
    · rw [if_neg lasting]
      split
      · simp [Option.filter, lasting]
      · rfl

theorem Sound.step_elsewhere (sound : store.Sound) (now : Nat) (op : StoreOp α) {key : String}
    (other : key ≠ op.key) :
    (store.step now op).2.seen now key = (store.seen now key).map (Holding.renewed now op.named) := by
  have unnamed := map_renewed_of_dead (sound.not_alive_none now) key
  cases op with
  | get asked =>
    rw [sound.step_get, StoreOp.named, unnamed]
    exact sound.seen_now_purge now key
  | put asked value lease ttl =>
    rw [StoreOp.named]
    by_cases named : lease = .none
    · obtain ⟨after, hstep, _, _, shown⟩ := sound.step_put_none now asked value ttl
      rw [named, hstep, unnamed]
      exact (shown key).trans (if_neg other)
    · by_cases alive : store.Alive now lease
      · obtain ⟨old, holding, hold, rfl⟩ := alive
        obtain ⟨after, hstep, _, _, shown⟩ := sound.step_put_alive value ttl hold
        rw [hstep]
        exact (shown key).trans (if_neg other)
      · rw [sound.step_put_dead asked value ttl named alive, map_renewed_of_dead alive]
        exact sound.seen_now_purge now key
  | delete asked =>
    obtain ⟨after, hstep, _, _, shown⟩ := sound.step_delete now asked
    rw [hstep, StoreOp.named, unnamed]
    exact (shown key).trans (if_neg other)

theorem Sound.alive_step (sound : store.Sound) {now : Nat} {op : StoreOp α} {lease : LeaseId}
    (alive : (store.step now op).2.Alive now lease) :
    store.Alive now lease ∨ store.lastLease < lease.number := by
  obtain ⟨key, holding, shown, rfl⟩ := alive
  by_cases own : key = op.key
  · subst own
    cases op with
    | get asked =>
      rw [sound.step_get] at shown
      exact .inl ⟨asked, holding, (sound.seen_now_purge now asked).symm.trans shown, rfl⟩
    | put asked value lease ttl =>
      by_cases named : lease = .none
      · obtain ⟨after, hstep, _, _, left⟩ := sound.step_put_none now asked value ttl
        rw [named, hstep] at shown
        rw [left, StoreOp.key, if_pos rfl] at shown
        cases shown
        exact .inr (Int.lt_succ _)
      · by_cases alive : store.Alive now lease
        · obtain ⟨old, former, hold, rfl⟩ := alive
          obtain ⟨after, hstep, _, _, left⟩ := sound.step_put_alive value ttl hold
          rw [hstep] at shown
          rw [left, StoreOp.key, if_pos rfl] at shown
          cases shown
          exact .inl ⟨old, former, hold, rfl⟩
        · rw [sound.step_put_dead asked value ttl named alive] at shown
          exact .inl ⟨asked, holding, (sound.seen_now_purge now asked).symm.trans shown, rfl⟩
    | delete asked =>
      obtain ⟨after, hstep, _, _, left⟩ := sound.step_delete now asked
      rw [hstep] at shown
      rw [left, StoreOp.key, if_pos rfl] at shown
      cases shown
  · rw [sound.step_elsewhere now op own] at shown
    obtain ⟨former, hold, rfl⟩ := Option.map_eq_some_iff.1 shown
    exact .inl ⟨key, former, hold, (former.renewed_lease now op.named).symm⟩

theorem Kept.step {old : Option Holding} {last now : Nat} {key : String} (upheld : store.Upheld last)
    (order : last ≤ now) (kept : Kept now old (store.seen now key)) (op : StoreOp α) (other : key ≠ op.key) :
    Kept now old ((store.step now op).2.seen now key) := by
  rw [upheld.toSound.step_elsewhere now op other]
  cases old with
  | none =>
    have absent : store.seen now key = none := kept
    rw [absent]
    rfl
  | some holding =>
    obtain ⟨deadline, bound, shown⟩ := kept
    rw [shown]
    by_cases lasting : now < deadline
    · rw [if_pos lasting] at shown ⊢
      rw [Option.map_some, Holding.renewed]
      split
      · -- the lease that was started anew ends no earlier than before
        have earlier := upheld.seen_bounded order shown
        simp only at earlier
        exact ⟨now + holding.ttl, by omega, (if_pos (by omega)).symm⟩
      · exact ⟨deadline, bound, (if_pos lasting).symm⟩
    · rw [if_neg lasting]
      exact ⟨deadline, bound, (if_neg lasting).symm⟩

end LeaseStore

end VoterSession
