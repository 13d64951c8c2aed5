import VoterSession.Proofs.Scenario.Triple
import VoterSession.Proofs.Store.Step
import VoterSession.Scenario.World
set_option autoImplicit false

/-!
The store behind faults, deadlines and repetitions. Whatever happens to the attempts, the store stays sound,
takes back no lease, and a read that is answered shows a lease that was granted. Main statements:
`orderly_eventful` and `Orderly.guard`.
-/
namespace VoterSession

def StoreOp.Answers (last : Int) {α : Type} : StoreOp α → Except StoreError α → Prop
  | .get _, .ok (some stored) => 0 ≤ stored.lease.number ∧ stored.lease.number ≤ last
  | _, _ => True

theorem StoreOp.answers_error (last : Int) {α : Type} (op : StoreOp α) (failure : StoreError) :
    op.Answers last (.error failure) := by
  cases op <;> trivial

namespace Scenario

open Timed

structure Numbered (floor : Int) (world : World) : Prop where
  sound : world.store.Sound
  granted : floor ≤ world.store.lastLease

/-- A computation that keeps the store sound and takes back no lease. -/
def Steady {α : Type} (computation : Timed World α) : Prop :=
  ∀ floor, Triple (Numbered floor) computation (fun _ => Numbered floor) (Numbered floor)

theorem Steady.numbered {α : Type} {computation : Timed World α} (steady : Steady computation)
    {start : Moment World} (sound : start.state.store.Sound) :
    Numbered start.state.store.lastLease (computation.runFrom start).2.state := by
  have triple := steady start.state.store.lastLease
  rcases run : computation.runFrom start with ⟨_ | _, stop⟩
  · exact triple.ended ⟨sound, Int.le_refl _⟩ run
  · exact triple.answered ⟨sound, Int.le_refl _⟩ run

theorem Steady.pure {α : Type} (answer : α) : Steady (pure answer : Timed World α) :=
  fun _ => Triple.pure fun _ numbered => numbered

theorem Steady.bind {α β : Type} {first : Timed World α} {next : α → Timed World β} (steady : Steady first)
    (rest : ∀ answer, Steady (next answer)) : Steady (first >>= next) :=
  fun floor => (steady floor).bind fun answer => rest answer floor

theorem Steady.advance (millis : Nat) : Steady (advance millis) :=
  fun _ => Triple.advance millis fun _ numbered => numbered

theorem Steady.change {α : Type} {f : Nat → World → α × World}
    (spares : ∀ now world, (f now world).2.store = world.store) : Steady (Timed.change f) := by
  refine fun floor => Triple.change fun now world numbered => ⟨?_, ?_⟩
  · rw [spares]
    exact numbered.sound
  · rw [spares]
    exact numbered.granted

theorem steady_setNow (seconds : Nat) :
    Steady (World.update fun world => { world with serviceNow := seconds }) := .change fun _ _ => rfl

theorem steady_clock : Steady World.clock := .change fun _ _ => rfl

/-- An attempt at an operation that does no more than the operation may do. -/
def Regular {α : Type} (op : StoreOp α) (attempt : Timed World (Except StoreError α)) : Prop :=
  ∀ floor, Triple (Numbered floor) attempt
    (fun answer world => Numbered floor world ∧ op.Answers world.store.lastLease answer) (Numbered floor)

variable {α : Type} {op : StoreOp α} {attempt : Timed World (Except StoreError α)}

theorem memory_call (op : StoreOp α) : World.memory.call op = Timed.change fun now world =>
    ((world.store.step now op).1, { world with store := (world.store.step now op).2 }) := rfl

theorem regular_memory (op : StoreOp α) : Regular op (World.memory.call op) := by
  intro floor
  rw [memory_call]
  refine Triple.change fun now world numbered => ?_
  refine ⟨⟨numbered.sound.step_sound now op, ?_⟩, ?_⟩
  · exact Int.le_trans numbered.granted (LeaseStore.lastLease_le_step now op world.store)
  · cases op with
    | get key =>
      simp only [numbered.sound.step_get now key]
      cases hseen : world.store.seen now key with
      | none => trivial
      | some holding =>
        have granted := numbered.sound.seen_numbered hseen
        exact ⟨Int.le_trans (by decide) granted.1, granted.2⟩
    | put key value lease ttl => trivial
    | delete key => trivial

theorem Regular.refused (failure : StoreError) : Regular op (pure (.error failure)) :=
  fun _ => Triple.pure fun _ numbered => ⟨numbered, op.answers_error _ failure⟩

theorem Regular.fault (regular : Regular op attempt) (fault : Fault) : Regular op (fault.apply attempt) := by
  intro floor
  cases fault with
  | plain => exact regular floor
  | hang => exact Triple.hang fun _ numbered => numbered
  | delay millis => exact (Triple.wait millis fun _ numbered => numbered).bind fun _ => regular floor
  | fail failure => exact Regular.refused failure floor
  | loseAnswer text =>
    refine (regular floor).bind fun answer => ?_
    cases answer <;> exact Triple.pure fun _ kept => ⟨kept.1, op.answers_error _ _⟩
  | answerLate millis =>
    refine (regular floor).bind fun answer => ?_
    refine (Triple.wait millis fun _ kept => kept.1).bind fun _ => ?_
    exact Triple.pure fun _ kept => kept

structure Orderly (store : StoreClient (Timed World)) : Prop where
  call : ∀ {α : Type} (op : StoreOp α), Regular op (store.call op)

theorem orderly_eventful {interleave : Step → Timed World Unit} (steady : ∀ step, Steady (interleave step)) :
    Orderly (World.eventful interleave) where
  call op := by
    intro floor
    have next : Steady World.nextEvent := .change fun now world => by split <;> rfl
    refine (next floor).bind fun event => ?_
    cases event with
    | fault fault => exact (regular_memory op).fault fault floor
    | interleave step => exact (steady step floor).bind fun _ => regular_memory op floor

theorem Regular.once (regular : Regular op attempt) (policy : RetryPolicy) :
    Regular op (policy.once Timed.timing attempt) := by
  intro floor
  refine (Triple.within policy.opTimeout (regular floor)).bind fun answer => ?_
  cases answer with
  | none => exact Regular.refused _ floor
  | some answer => exact Triple.pure fun _ kept => kept

theorem Regular.attempts (regular : Regular op attempt) (policy : RetryPolicy) (left : Nat) :
    Regular op (policy.attempts Timed.timing attempt left) := by
  induction left with
  | zero => exact regular.once policy
  | succ left ih =>
    intro floor
    refine (regular.once policy floor).bind fun answer => ?_
    cases answer with
    | ok answer => exact Triple.pure fun _ kept => kept
    | error failure =>
      dsimp only
      split
      · refine Triple.mono ?_ (fun _ kept => kept.1) (fun _ _ kept => kept) (fun _ kept => kept)
        exact (Triple.wait policy.backoff fun _ numbered => numbered).bind fun _ => ih floor
      · exact Triple.pure fun _ kept => kept

theorem Orderly.guard {store : StoreClient (Timed World)} (orderly : Orderly store) (policy : RetryPolicy) :
    Orderly (policy.guard Timed.timing store) where
  call op := (orderly.call op).attempts policy policy.maxRetries

end Scenario

end VoterSession
