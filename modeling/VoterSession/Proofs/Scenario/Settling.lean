import VoterSession.Proofs.Scenario.Bench
import VoterSession.Proofs.Service.Call
set_option autoImplicit false

/-!
What a read and a write of a session make of the lease store, whatever becomes of their attempts: a read changes
nothing, and a write leaves its key as it was or writes it whole. Main statements: `withstands_read`,
`withstands_write`.
-/
namespace VoterSession

def SessionWrite.op (key : String) : SessionWrite → StoreOp Unit
  | .update request => .put key (RecordText.encode (some request.caller) request.auth) request.lease request.ttl
  | .delete _ => .delete key

def SessionWrite.Leaves (time : Nat) (shown : Option Holding) : SessionWrite → Prop
  | .update request => ∃ held life, 0 < life ∧
      shown = some ⟨RecordText.encode (some request.caller) request.auth, held, life, time + life⟩
  | .delete _ => shown = none

def Transition.Leaves (method : Method) (time : Nat) (shown : Option Holding) (step : Transition) : Prop :=
  match step.advance with
  | .update _ => step.auth.isResolved = true ∧ ∃ held life, 0 < life ∧
      shown = some ⟨RecordText.encode (some method) step.auth, held, life, time + life⟩
  | .delete => shown = none

theorem Verifier.leaves_of_plan {verifier : Verifier} {header : Header} {step : Transition} {plan : Plan}
    (h : verifier.plan header step = .ok plan) {time : Nat} {shown : Option Holding}
    (leaves : plan.write.Leaves time shown) : step.Leaves step.method time shown := by
  obtain ⟨stage, request, advance, writes, built⟩ | ⟨request, advance, writes, _⟩ := plan_cases h <;>
    rw [writes] at leaves <;> simp only [Transition.Leaves, advance]
  · obtain ⟨⟨_, _, resolved⟩, rfl⟩ := UpdateRequest.ofFields_eq_ok_iff.1 built
    exact ⟨resolved, leaves⟩
  · exact leaves

namespace Scenario

open Timed Bench

/-! ### Reading -/

/-- Since `begun`, nothing but expiry has changed the store. -/
def Pristine (store : LeaseStore) (begun now : Nat) (state : LeaseStore) : Prop :=
  begun ≤ now ∧ (state = store ∨ ∃ time, begun ≤ time ∧ time ≤ now ∧ state = store.purge time)

variable {store state : LeaseStore} {since begun now : Nat}

theorem Pristine.waits (pristine : Pristine store begun now state) {later : Nat} (order : now ≤ later) :
    Pristine store begun later state := by
  obtain ⟨past, same | ⟨time, after, before, purged⟩⟩ := pristine
  · exact ⟨Nat.le_trans past order, .inl same⟩
  · exact ⟨Nat.le_trans past order, .inr ⟨time, after, Nat.le_trans before order, purged⟩⟩

theorem Pristine.purge (sound : store.Sound) (pristine : Pristine store begun now state) :
    state.purge now = store.purge now := by
  obtain ⟨_, rfl | ⟨time, _, before, rfl⟩⟩ := pristine
  · rfl
  · exact sound.purge_purge before

theorem Pristine.seen (sound : store.Sound) (pristine : Pristine store begun now state) (key : String) :
    state.seen now key = store.seen now key :=
  congrArg (LeaseStore.holding? key) (pristine.purge sound)

theorem Pristine.upheld (upheld : store.Upheld since) (order : since ≤ begun)
    (pristine : Pristine store begun now state) : ∃ last ≤ now, state.Upheld last := by
  obtain ⟨past, rfl | ⟨time, after, before, rfl⟩⟩ := pristine
  · exact ⟨since, Nat.le_trans order past, upheld⟩
  · exact ⟨time, before, upheld.perform (Nat.le_trans order after) .expire⟩

theorem Pristine.kept (sound : store.Sound) (pristine : Pristine store begun now state) (key : String) :
    LeaseStore.Kept now (store.seen begun key) (state.seen now key) := by
  rw [pristine.seen sound]
  exact (sound.keeps begun key).later sound pristine.1

def Found (store : LeaseStore) (begun : Nat) (key : String) (stored : Option StoredValue) (now : Nat) : Prop :=
  ∃ read, begun ≤ read ∧ read ≤ now ∧ stored = (store.seen read key).map Holding.stored

theorem withstands_read (sound : store.Sound) (begun : Nat) (key : String) :
    Withstands (.get key) (Pristine store begun)
      (fun stored now state => Pristine store begun now state ∧ Found store begun key stored now) where
  waits pristine order := pristine.waits order
  lasts := by
    rintro stored now later state ⟨pristine, read, after, before, found⟩ order
    exact ⟨pristine.waits order, read, after, Nat.le_trans before order, found⟩
  weakens h := h.1
  steps := by
    intro now state pristine
    have reachable : state.Sound := by
      obtain ⟨_, rfl | ⟨time, _, _, rfl⟩⟩ := pristine
      · exact sound
      · exact sound.purge time
    rw [reachable.step_get]
    refine ⟨⟨pristine.1, .inr ⟨now, pristine.1, Nat.le_refl now, pristine.purge sound⟩⟩, now, pristine.1,
      Nat.le_refl now, ?_⟩
    rw [pristine.seen sound]

/-! ### Writing -/

variable {read : Nat} {key : String} {write : SessionWrite}

structure Undisturbed (store : LeaseStore) (begun : Nat) (key : String) (now : Nat) (state : LeaseStore) :
    Prop where
  upheld : ∃ last ≤ now, state.Upheld last
  others : ∀ k, k ≠ key → LeaseStore.Kept now (store.seen begun k) (state.seen now k)

/-- The write took effect, and what it left is there until its lease ends. -/
def Landed (read : Nat) (write : SessionWrite) (now : Nat) (shown : Option Holding) : Prop :=
  ∃ written left, read ≤ written ∧ written ≤ now ∧ write.Leaves written left ∧
    shown = left.filter fun holding => now < holding.deadline

structure Settling (store : LeaseStore) (begun read : Nat) (key : String) (write : SessionWrite) (now : Nat)
    (state : LeaseStore) : Prop extends Undisturbed store begun key now state where
  past : read ≤ now
  record : state.seen now key = store.seen now key ∨ Landed read write now (state.seen now key)

structure Settled (store : LeaseStore) (begun read : Nat) (key : String) (write : SessionWrite) (now : Nat)
    (state : LeaseStore) : Prop extends Undisturbed store begun key now state where
  past : read ≤ now
  landed : ∃ written, read ≤ written ∧ written ≤ now ∧ write.Leaves written (state.seen written key)

theorem Undisturbed.waits (undisturbed : Undisturbed store begun key now state) {later : Nat}
    (order : now ≤ later) : Undisturbed store begun key later state := by
  obtain ⟨⟨last, past, upheld⟩, others⟩ := undisturbed
  refine ⟨⟨last, Nat.le_trans past order, upheld⟩, ?_⟩
  intro k other
  exact (others k other).later upheld.toSound order

theorem Undisturbed.step (undisturbed : Undisturbed store begun key now state) {α : Type} {op : StoreOp α}
    (same : op.key = key) : Undisturbed store begun key now (state.step now op).2 := by
  obtain ⟨⟨last, past, upheld⟩, others⟩ := undisturbed
  refine ⟨⟨now, Nat.le_refl now, upheld.step past op⟩, ?_⟩
  intro k other
  exact (others k other).step upheld past op (by rw [same]; exact other)

theorem Landed.waits {shown : Option Holding} (landed : Landed read write now shown) {later : Nat}
    (order : now ≤ later) : Landed read write later (shown.filter fun holding => later < holding.deadline) := by
  obtain ⟨written, left, after, before, leaves, rfl⟩ := landed
  exact ⟨written, left, after, Nat.le_trans before order, leaves,
    LeaseStore.filter_until Holding.deadline order left⟩

theorem Settled.settling (settled : Settled store begun read key write now state) :
    Settling store begun read key write now state := by
  obtain ⟨last, _, upheld⟩ := settled.upheld
  obtain ⟨written, after, before, leaves⟩ := settled.landed
  refine { settled.toUndisturbed with past := settled.past, record := .inr ?_ }
  exact ⟨written, _, after, before, leaves, upheld.toSound.seen_later before key⟩

theorem Pristine.settling (upheld : store.Upheld since) (order : since ≤ begun)
    (pristine : Pristine store begun now state) (past : read ≤ now) (key : String) (write : SessionWrite) :
    Settling store begun read key write now state where
  upheld := pristine.upheld upheld order
  others k _ := pristine.kept upheld.toSound k
  past := past
  record := .inl (pristine.seen upheld.toSound key)

theorem leaves_step {last : Nat} (upheld : state.Upheld last) (past : last ≤ now) (key : String)
    (write : SessionWrite) :
    (state.step now (write.op key)).1 = .ok () ∧
      write.Leaves now ((state.step now (write.op key)).2.seen now key) ∨
    ∃ failure, state.step now (write.op key) = (.error failure, state.purge now) := by
  have sound := upheld.toSound
  cases write with
  | delete request =>
    obtain ⟨after, hstep, _, _, shown⟩ := sound.step_delete now key
    rw [SessionWrite.op, hstep]
    exact .inl ⟨rfl, (shown key).trans (if_pos rfl)⟩
  | update request =>
    rcases request with ⟨version, header, caller, auth, lease, ttl⟩
    simp only [SessionWrite.op, SessionWrite.Leaves]
    by_cases named : lease = .none
    · obtain ⟨after, hstep, _, _, shown⟩ :=
        sound.step_put_none now key (RecordText.encode (some caller) auth) ttl
      rw [named, hstep]
      exact .inl ⟨rfl, _, _, ttl.millis_pos, (shown key).trans (if_pos rfl)⟩
    · by_cases alive : state.Alive now lease
      · obtain ⟨old, holding, hold, rfl⟩ := alive
        obtain ⟨after, hstep, _, _, shown⟩ := @LeaseStore.Sound.step_put_alive state sound now key old holding
          (RecordText.encode (some caller) auth) ttl hold
        rw [hstep]
        refine .inl ⟨rfl, _, _, ?_, (shown key).trans (if_pos rfl)⟩
        -- the lease starts anew with the lifetime that it was granted with, not with the one asked for
        have lasting := sound.seen_alive hold
        have bounded := upheld.seen_bounded past hold
        omega
      · exact .inr ⟨_, sound.step_put_dead key _ ttl named alive⟩

theorem withstands_write (sound : store.Sound) (begun read : Nat) (key : String) (write : SessionWrite) :
    Withstands (write.op key) (Settling store begun read key write)
      (fun _ => Settled store begun read key write) where
  waits := by
    intro now later state settling order
    obtain ⟨last, _, upheld⟩ := settling.upheld
    refine { settling.toUndisturbed.waits order with past := Nat.le_trans settling.past order, record := ?_ }
    obtain same | landed := settling.record
    · refine .inl ?_
      rw [upheld.toSound.seen_later order, sound.seen_later order, same]
    · refine .inr ?_
      rw [upheld.toSound.seen_later order]
      exact landed.waits order
  lasts := by
    intro _ now later state settled order
    obtain ⟨written, after, before, leaves⟩ := settled.landed
    exact { settled.toUndisturbed.waits order with
      past := Nat.le_trans settled.past order
      landed := ⟨written, after, Nat.le_trans before order, leaves⟩ }
  weakens settled := settled.settling
  steps := by
    intro now state settling
    obtain ⟨last, past, upheld⟩ := settling.upheld
    have same : (write.op key).key = key := by cases write <;> rfl
    have undisturbed := settling.toUndisturbed.step same
    obtain ⟨success, leaves⟩ | ⟨failure, refused⟩ := leaves_step upheld past key write
    · rw [success]
      exact { undisturbed with
        past := settling.past, landed := ⟨now, settling.past, Nat.le_refl now, leaves⟩ }
    · -- the lease that the write names has ended: nothing happened but expiry
      rw [refused] at undisturbed ⊢
      refine { undisturbed with past := settling.past, record := ?_ }
      rw [upheld.toSound.seen_now_purge now key]
      exact settling.record

end Scenario

end VoterSession
