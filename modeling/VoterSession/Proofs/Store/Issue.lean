import VoterSession.Proofs.Store.Keeping
set_option autoImplicit false

/-!
The leases that a run of the lease store grants: each is numbered above all that were granted before it, and one
that has no key left is never alive again. Main statement: `issued_leases_never_return`.
-/
namespace VoterSession

namespace LeaseStore

variable {store : LeaseStore} {now : Nat} {lease : LeaseId} {actions : List (Nat × StoreAction)}

/-- The lease that an action is granted: the one that its key is on after it, if it named none. -/
def issue? (now : Nat) (action : StoreAction) (store : LeaseStore) : Option LeaseId :=
  match action with
  | .put key _ lease _ =>
    if lease = .none then ((store.perform now action).2.seen now key).map Holding.lease else none
  | _ => none

def issued : List (Nat × StoreAction) → LeaseStore → List LeaseId
  | [], _ => []
  | (now, action) :: rest, store => (store.issue? now action).toList ++ issued rest (store.perform now action).2

/-! ### One action -/

theorem perform_as_step (action : StoreAction) : ∃ (α : Type) (op : StoreOp α),
    ∀ (now : Nat) (store : LeaseStore), (store.perform now action).2 = (store.step now op).2 := by
  cases action with
  | get key => exact ⟨_, .get key, fun _ _ => rfl⟩
  | put key value lease ttl => exact ⟨_, .put key value lease ttl, fun _ _ => rfl⟩
  | delete key => exact ⟨_, .delete key, fun _ _ => rfl⟩
  | timeToLive | liveKeys | liveLeases | expire => exact ⟨_, .get "", fun _ _ => rfl⟩

theorem Sound.alive_perform (sound : store.Sound) {action : StoreAction}
    (alive : (store.perform now action).2.Alive now lease) :
    store.Alive now lease ∨ store.lastLease < lease.number := by
  obtain ⟨_, op, same⟩ := perform_as_step action
  rw [same] at alive
  exact sound.alive_step alive

theorem lastLease_le_perform (now : Nat) (action : StoreAction) (store : LeaseStore) :
    store.lastLease ≤ (store.perform now action).2.lastLease := by
  obtain ⟨_, op, same⟩ := perform_as_step action
  rw [same]
  exact lastLease_le_step now op store

theorem Sound.issue_put_none (sound : store.Sound) (now : Nat) (key : String) (value : Bytes) (ttl : Ttl) :
    store.issue? now (.put key value .none ttl) = some ⟨store.lastLease + 1⟩ := by
  obtain ⟨after, hstep, _, _, shown⟩ := sound.step_put_none now key value ttl
  have left : (store.perform now (.put key value .none ttl)).2 = after := congrArg Prod.snd hstep
  rw [issue?, if_pos rfl, left, shown, if_pos rfl, Option.map_some]

theorem issue_put_named (now : Nat) (key : String) (value : Bytes) (ttl : Ttl) (named : lease ≠ .none) :
    store.issue? now (.put key value lease ttl) = none :=
  if_neg named

theorem Sound.issue_cases (sound : store.Sound) (now : Nat) (action : StoreAction) :
    (store.issue? now action = some ⟨store.lastLease + 1⟩ ∧
      (store.perform now action).2.lastLease = store.lastLease + 1) ∨
    (store.issue? now action = none ∧ (store.perform now action).2.lastLease = store.lastLease) := by
  cases action with
  | put key value lease ttl =>
    change _ ∧ (store.step now (.put key value lease ttl)).2.lastLease = _ ∨
      _ ∧ (store.step now (.put key value lease ttl)).2.lastLease = _
    by_cases named : lease = .none
    · obtain ⟨after, hstep, _, counted, _⟩ := sound.step_put_none now key value ttl
      rw [named, hstep]
      exact .inl ⟨sound.issue_put_none now key value ttl, counted⟩
    · refine .inr ⟨issue_put_named now key value ttl named, ?_⟩
      by_cases alive : store.Alive now lease
      · obtain ⟨old, holding, hold, rfl⟩ := alive
        obtain ⟨after, hstep, _, counted, _⟩ := sound.step_put_alive value ttl hold
        rw [hstep]
        exact counted
      · rw [sound.step_put_dead key value ttl named alive]
        rfl
  | delete key =>
    obtain ⟨after, hstep, _, counted, _⟩ := sound.step_delete now key
    exact .inr ⟨rfl, (congrArg (fun result => result.2.lastLease) hstep).trans counted⟩
  | get | timeToLive | liveKeys | liveLeases | expire => exact .inr ⟨rfl, rfl⟩

/-! ### Runs -/

theorem lastLease_le_through (actions : List (Nat × StoreAction)) (store : LeaseStore) :
    store.lastLease ≤ (store.through actions).lastLease := by
  induction actions generalizing store with
  | nil => exact Int.le_refl _
  | cons action rest ih => exact Int.le_trans (lastLease_le_perform ..) (ih _)

theorem Sound.mem_issued_iff (sound : store.Sound) : lease ∈ issued actions store ↔
    store.lastLease < lease.number ∧ lease.number ≤ (store.through actions).lastLease := by
  induction actions generalizing store with
  | nil =>
    simp only [issued, List.not_mem_nil, through_nil, false_iff]
    omega
  | cons first rest ih =>
    obtain ⟨now, action⟩ := first
    have later := ih (sound.perform now action).1
    have rising := lastLease_le_through rest (store.perform now action).2
    rw [through_cons, issued, List.mem_append, later, Option.mem_toList]
    obtain ⟨granted, counted⟩ | ⟨granted, counted⟩ := sound.issue_cases now action
    · have next : some (⟨store.lastLease + 1⟩ : LeaseId) = some lease ↔
          lease.number = store.lastLease + 1 := by
        rw [Option.some.injEq]
        exact ⟨fun same => same ▸ rfl, fun same => same ▸ rfl⟩
      rw [granted, next]
      omega
    · rw [granted, counted]
      simp only [reduceCtorEq, false_or]

theorem Sound.issued_rising (sound : store.Sound) (actions : List (Nat × StoreAction)) :
    (issued actions store).Pairwise fun earlier later => earlier.number < later.number := by
  induction actions generalizing store with
  | nil => exact .nil
  | cons first rest ih =>
    obtain ⟨now, action⟩ := first
    have sound' := (sound.perform now action).1
    rw [issued]
    obtain ⟨granted, counted⟩ | ⟨granted, _⟩ := sound.issue_cases now action
    · rw [granted]
      refine .cons ?_ (ih sound')
      intro later member
      have above := (sound'.mem_issued_iff.1 member).1
      simp only
      omega
    · rw [granted]
      exact ih sound'

theorem Sound.lastLease_through (sound : store.Sound) (actions : List (Nat × StoreAction)) :
    (store.through actions).lastLease = store.lastLease + (issued actions store).length := by
  induction actions generalizing store with
  | nil => exact (Int.add_zero _).symm
  | cons first rest ih =>
    obtain ⟨now, action⟩ := first
    have counted := ih (sound.perform now action).1
    rw [through_cons, counted, issued, List.length_append]
    obtain ⟨granted, next⟩ | ⟨granted, same⟩ := sound.issue_cases now action
    · rw [granted, next, Option.toList_some, List.length_singleton]
      omega
    · rw [granted, same, Option.toList_none, List.length_nil]
      omega

theorem Sound.stays_dead (sound : store.Sound) (granted : lease.number ≤ store.lastLease)
    (dead : ¬ store.Alive now lease) {later : Nat}
    (ordered : (now :: (actions.map Prod.fst ++ [later])).Pairwise (· ≤ ·)) :
    ¬ (store.through actions).Alive later lease := by
  induction actions generalizing store now with
  | nil =>
    have order : now ≤ later := (List.pairwise_cons.1 ordered).1 later List.mem_cons_self
    exact fun alive => dead (sound.alive_of_later order alive)
  | cons first rest ih =>
    obtain ⟨time, action⟩ := first
    obtain ⟨order, ordered⟩ := List.pairwise_cons.1 ordered
    have rising := lastLease_le_perform time action store
    rw [through_cons]
    refine ih (sound.perform time action).1 (Int.le_trans granted rising) ?_ ordered
    intro alive
    obtain before | fresh := sound.alive_perform alive
    · exact dead (sound.alive_of_later (order time List.mem_cons_self) before)
    · omega

theorem Sound.not_alive_of_not_issued (sound : (empty.through actions).Sound) (now : Nat)
    (unissued : lease ∉ issued actions empty) : ¬ (empty.through actions).Alive now lease := by
  rintro ⟨key, holding, shown, rfl⟩
  have numbered := sound.seen_numbered shown
  have start : empty.lastLease = 0 := rfl
  exact unissued (sound_empty.mem_issued_iff.2 (by omega))

/-- Actions are granted leases numbered from one on, each above all before it. A lease that was not granted yet,
and one that was and is on no key any more, has no time left, and a write that names it is refused and leaves
the store as the expiry of that moment does. Once granted and without a key, it is never on one again. -/
theorem issued_leases_never_return (actions : List (Nat × StoreAction)) :
    ((issued actions empty).Pairwise fun earlier later => earlier.number < later.number) ∧
    (∀ lease ∈ issued actions empty, 1 ≤ lease.number ∧ lease.number ≤ (issued actions empty).length) ∧
    ∀ (now : Nat) (lease : LeaseId), lease ≠ .none →
      lease ∉ issued actions empty ∨ ¬ (empty.through actions).Alive now lease →
      ((empty.through actions).timeToLive now lease).1 = none ∧
      (∀ key value ttl, (empty.through actions).step now (.put key value lease ttl) =
        (.error (.leaseNotFound lease), (empty.through actions).purge now)) ∧
      (lease ∈ issued actions empty → ∀ (more : List (Nat × StoreAction)) (later : Nat),
        (now :: (more.map Prod.fst ++ [later])).Pairwise (· ≤ ·) →
        ¬ ((empty.through actions).through more).Alive later lease) := by
  have sound := sound_empty.through actions
  have start : empty.lastLease = 0 := rfl
  have counted := sound_empty.lastLease_through actions
  refine ⟨sound_empty.issued_rising actions, ?_, ?_⟩
  · intro lease member
    have numbered := sound_empty.mem_issued_iff.1 member
    omega
  · intro now lease named gone
    have dead : ¬ (empty.through actions).Alive now lease :=
      gone.elim (sound.not_alive_of_not_issued now) id
    refine ⟨sound.timeToLive_eq_none_iff.2 dead, ?_, ?_⟩
    · intro key value ttl
      exact sound.step_put_dead key value ttl named dead
    · intro member more later ordered
      exact sound.stays_dead (sound_empty.mem_issued_iff.1 member).2 dead ordered

theorem left_lease_refused :
    issued leaseTraffic empty = [⟨1⟩, ⟨2⟩, ⟨3⟩] ∧
    ¬ (empty.through (leaseTraffic.take 6)).Alive 1600 ⟨2⟩ ∧
    ((empty.through (leaseTraffic.take 6)).step 1600 (.put "second" [6] ⟨2⟩ { seconds := 9 })).1 =
      .error (.leaseNotFound ⟨2⟩) ∧
    ¬ ((empty.through (leaseTraffic.take 6)).through (leaseTraffic.drop 6)).Alive 1900 ⟨2⟩ := by
  have dead : ¬ (empty.through (leaseTraffic.take 6)).Alive 1600 ⟨2⟩ :=
    (sound_empty.through _).timeToLive_eq_none_iff.1 (by decide +kernel)
  obtain ⟨_, _, gone⟩ := issued_leases_never_return (leaseTraffic.take 6)
  obtain ⟨_, refused, ended⟩ := gone 1600 ⟨2⟩ (by decide) (.inr dead)
  refine ⟨by decide +kernel, dead, ?_, ended (by decide +kernel) (leaseTraffic.drop 6) 1900 (by decide)⟩
  rw [refused]

end LeaseStore

end VoterSession
