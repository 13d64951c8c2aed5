import VoterSession.Proofs.Scenario.Calls
import VoterSession.Proofs.Store.Keeping
import VoterSession.Scenario.Fault
set_option autoImplicit false

/-!
A lease store whose attempts meet the faults of a schedule, with a log of what was attempted and what was
answered. What one operation makes of the store, it makes of it under every schedule, however often it is
repeated. Main statement: `timely_repeated`.
-/
namespace VoterSession

def StoreOp.hear {α : Type} (op : StoreOp α) (heard : List (StoreAction × StoreReply)) :
    Except StoreError α → List (StoreAction × StoreReply)
  | .ok result => (op.action, op.reply (.ok result)) :: heard
  | .error _ => heard

namespace Scenario

open Timed

/-- The store, the attempts so far, and those that were answered with their answers. -/
structure Bench where
  store : LeaseStore
  asked : List StoreAction := []
  answered : List (StoreAction × StoreReply) := []

namespace Bench

variable {α : Type}

def memory (op : StoreOp α) : Timed Bench (Except StoreError α) := Timed.change fun now bench =>
  ((bench.store.step now op).1, { bench with store := (bench.store.step now op).2 })

def ask (op : StoreOp α) : Timed Bench Nat := Timed.change fun _ bench =>
  (bench.asked.length, { bench with asked := bench.asked ++ [op.action] })

def answer (op : StoreOp α) (outcome : Except StoreError α) : Timed Bench Unit := Timed.change fun _ bench =>
  ((), { bench with answered := bench.answered ++ [(op.action, op.reply outcome)] })

def faulty (schedule : Nat → Fault) : StoreClient (Timed Bench) where
  call op := do
    let number ← ask op
    let outcome ← (schedule number).apply (memory op)
    answer op outcome
    return outcome

structure Shows (only : StoreAction → Prop) (heard : List (StoreAction × StoreReply))
    (state : Nat → LeaseStore → Prop) (now : Nat) (bench : Bench) : Prop where
  asked : ∀ action ∈ bench.asked, only action
  answered : heard ⊆ bench.answered
  holds : state now bench.store

end Bench

variable {α : Type}

/-- From a store with `before` the operation makes one with `after` if it succeeds, and keeps `before` if it
fails. Both hold on as time passes, and a success may be taken for a failure. -/
structure Withstands (op : StoreOp α) (before : Nat → LeaseStore → Prop)
    (after : α → Nat → LeaseStore → Prop) : Prop where
  waits : ∀ {now later : Nat} {store : LeaseStore}, before now store → now ≤ later → before later store
  lasts : ∀ {result : α} {now later : Nat} {store : LeaseStore}, after result now store → now ≤ later →
    after result later store
  weakens : ∀ {result : α} {now : Nat} {store : LeaseStore}, after result now store → before now store
  steps : ∀ {now : Nat} {store : LeaseStore}, before now store →
    Follows before after (store.step now op).1 now (store.step now op).2

namespace Withstands

open Bench

variable {op : StoreOp α} {before : Nat → LeaseStore → Prop} {after : α → Nat → LeaseStore → Prop}
variable (stands : Withstands op before after)

include stands

theorem follows_waits {outcome : Except StoreError α} {now later : Nat} {store : LeaseStore}
    (h : Follows before after outcome now store) (order : now ≤ later) : before later store := by
  cases outcome with
  | ok result => exact stands.waits (stands.weakens h) order
  | error failure => exact stands.waits h order

theorem follows_lasts {outcome : Except StoreError α} {now later : Nat} {store : LeaseStore}
    (h : Follows before after outcome now store) (order : now ≤ later) :
    Follows before after outcome later store := by
  cases outcome with
  | ok result => exact stands.lasts h order
  | error failure => exact stands.waits h order

variable (only : StoreAction → Prop) (heard : List (StoreAction × StoreReply))

theorem timely_memory (limit : Option Nat) (cut : Nat → Bench → Prop) :
    Timely limit (Shows only heard before) (memory op)
      (fun outcome => Shows only heard (Follows before after outcome)) cut :=
  Timely.change fun _ _ shows => ⟨shows.asked, shows.answered, stands.steps shows.holds⟩

theorem timely_fault (due : Nat) (fault : Fault) :
    Timely (some due) (Shows only heard before) (fault.apply (memory op))
      (fun outcome => Shows only heard (Follows before after outcome)) (Shows only heard before) := by
  have attempt := stands.timely_memory only heard (some due) (Shows only heard before)
  cases fault with
  | plain => exact attempt
  | hang => exact Timely.hang fun _ _ shows order => { shows with holds := stands.waits shows.holds order }
  | delay millis =>
    have waited : Timely (some due) (Shows only heard before) (Timed.wait millis)
        (fun _ => Shows only heard before) (Shows only heard before) :=
      Timely.wait_lasting millis
        (fun _ _ _ shows order => { shows with holds := stands.waits shows.holds order }) fun _ _ shows => shows
    exact waited.bind fun _ => attempt
  | fail failure => exact Timely.pure fun _ _ shows => shows
  | loseAnswer text =>
    -- the operation may have succeeded, and the caller is told of a failure
    refine attempt.bind fun outcome => ?_
    cases outcome with
    | ok result => exact Timely.pure fun _ _ shows => { shows with holds := stands.weakens shows.holds }
    | error failure => exact Timely.pure fun _ _ shows => shows
  | answerLate millis =>
    refine attempt.bind fun outcome => ?_
    have waited : Timely (some due) (Shows only heard (Follows before after outcome)) (Timed.wait millis)
        (fun _ => Shows only heard (Follows before after outcome)) (Shows only heard before) :=
      Timely.wait_lasting millis
        (fun _ _ _ shows order => { shows with holds := stands.follows_lasts shows.holds order })
        fun _ _ shows => { shows with holds := stands.follows_waits shows.holds (Nat.le_refl _) }
    exact waited.bind fun _ => Timely.pure fun _ _ shows => shows

variable (permitted : only op.action)

include permitted

theorem timely_attempt (due : Nat) (schedule : Nat → Fault) :
    Timely (some due) (Shows only heard before) ((faulty schedule).call op)
      (fun outcome => Shows only (op.hear heard outcome) (Follows before after outcome))
      (Shows only heard before) := by
  have counted : Timely (some due) (Shows only heard before) (ask op) (fun _ => Shows only heard before)
      (Shows only heard before) := by
    refine Timely.change fun now bench shows => { shows with asked := ?_ }
    intro action member
    obtain earlier | last := List.mem_append.1 member
    · exact shows.asked action earlier
    · rw [List.mem_singleton.1 last]
      exact permitted
  refine counted.bind fun number => (stands.timely_fault only heard due (schedule number)).bind fun outcome => ?_
  have noted : Timely (some due) (Shows only heard (Follows before after outcome)) (answer op outcome)
      (fun _ => Shows only (op.hear heard outcome) (Follows before after outcome)) (Shows only heard before) := by
    refine Timely.change fun now bench shows => { shows with answered := ?_ }
    cases outcome with
    | error failure => exact List.subset_append_of_subset_left _ shows.answered
    | ok result =>
      refine List.cons_subset.2 ⟨?_, List.subset_append_of_subset_left _ shows.answered⟩
      exact List.mem_append_right _ (List.mem_singleton_self _)
  exact noted.bind fun _ => Timely.pure fun _ _ shows => shows

theorem timely_repeated (policy : RetryPolicy) (schedule : Nat → Fault) (cut : Nat → Bench → Prop) :
    Timely none (Shows only heard before) ((policy.guard Timed.timing (faulty schedule)).call op)
      (fun outcome => Shows only (op.hear heard outcome) (Follows before after outcome)) cut :=
  timely_attempts (fun due => stands.timely_attempt only heard permitted due schedule)
    (fun _ _ _ _ shows order => { shows with holds := stands.waits shows.holds order }) policy.maxRetries

end Withstands

end Scenario

end VoterSession
