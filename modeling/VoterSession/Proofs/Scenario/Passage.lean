import VoterSession.Proofs.Scenario.Calls
import VoterSession.Proofs.Store.Issue
set_option autoImplicit false

/-!
Attempts on their way to a lease store and back. One that takes effect may be answered too late, by a failure, or
not at all. What holds before every attempt and after an acknowledged one, holds so for any number of them under
every schedule. Main statement: `Repeatable.total`.
-/
namespace VoterSession.Scenario

open Timed LeaseStore

/-- How an attempt goes. It is `travel` milliseconds on its way to the store, and its answer is `lag` on its way
back; either can be longer than the caller waits. -/
inductive Passage where
  | answered (travel lag : Nat)
  /-- Takes effect, and the caller is told of this failure. -/
  | unheard (travel lag : Nat) (failure : StoreError)
  /-- Does not take effect, and the caller is told of this failure. -/
  | missed (travel : Nat) (failure : StoreError)

def Passage.carry {σ α : Type} (attempt : Timed σ (Except StoreError α)) : Passage → Timed σ (Except StoreError α)
  | answered travel lag => do
    Timed.wait travel
    let outcome ← attempt
    Timed.wait lag
    return outcome
  | unheard travel lag failure => do
    Timed.wait travel
    let _ ← attempt
    Timed.wait lag
    return .error failure
  | missed travel failure => do
    Timed.wait travel
    return .error failure

structure Arrival where
  attempt : Nat
  time : Nat
  granted : Option LeaseId
deriving DecidableEq

structure Trial where
  store : LeaseStore
  attempts : Nat := 0
  arrivals : List Arrival := []

namespace Trial

variable {α : Type}

def depart : Timed Trial Nat := Timed.change fun _ trial =>
  (trial.attempts, { trial with attempts := trial.attempts + 1 })

def arrived (number now : Nat) (op : StoreOp α) (trial : Trial) : Trial where
  store := (trial.store.step now op).2
  attempts := trial.attempts
  arrivals := trial.arrivals ++ [⟨number, now, trial.store.issue? now op.action⟩]

def arrive (number : Nat) (op : StoreOp α) : Timed Trial (Except StoreError α) := Timed.change fun now trial =>
  ((trial.store.step now op).1, trial.arrived number now op)

def remote (schedule : Nat → Passage) : StoreClient (Timed Trial) where
  call op := do
    let number ← depart
    (schedule number).carry (arrive number op)

end Trial

/-- What holds before any attempt and after a failed one, and what holds after an acknowledged one. Both hold on
as time passes, and an attempt that took effect may be taken for one that failed. -/
structure Repeatable {α : Type} (op : StoreOp α) (before : Nat → Trial → Prop) (after : α → Nat → Trial → Prop) :
    Prop where
  waits : ∀ now later trial, before now trial → now ≤ later → before later trial
  lasts : ∀ result now later trial, after result now trial → now ≤ later → after result later trial
  weakens : ∀ result now trial, after result now trial → before now trial
  departs : ∀ now trial, before now trial → before now { trial with attempts := trial.attempts + 1 }
  arrives : ∀ number now trial, number + 1 = trial.attempts → before now trial →
    Follows before after (trial.store.step now op).1 now (trial.arrived number now op)

namespace Repeatable

variable {α : Type} {op : StoreOp α} {before : Nat → Trial → Prop} {after : α → Nat → Trial → Prop}
variable (repeatable : Repeatable op before after)

include repeatable

theorem weakened {outcome : Except StoreError α} {now : Nat} {trial : Trial}
    (h : Follows before after outcome now trial) : before now trial := by
  cases outcome with
  | ok result => exact repeatable.weakens result now trial h
  | error failure => exact h

theorem lasting {outcome : Except StoreError α} {now later : Nat} {trial : Trial}
    (h : Follows before after outcome now trial) (order : now ≤ later) :
    Follows before after outcome later trial := by
  cases outcome with
  | ok result => exact repeatable.lasts result now later trial h order
  | error failure => exact repeatable.waits now later trial h order

theorem timely_carry (due number : Nat) (passage : Passage) :
    Timely (some due) (fun now trial => number + 1 = trial.attempts ∧ before now trial)
      (passage.carry (Trial.arrive number op)) (Follows before after) before := by
  have travels (travel : Nat) : Timely (some due) (fun now trial => number + 1 = trial.attempts ∧ before now trial)
      (Timed.wait travel) (fun _ now trial => number + 1 = trial.attempts ∧ before now trial) before :=
    Timely.wait_lasting travel
      (fun now later trial h order => ⟨h.1, repeatable.waits now later trial h.2 order⟩) fun _ _ h => h.2
  have arrives : Timely (some due) (fun now trial => number + 1 = trial.attempts ∧ before now trial)
      (Trial.arrive number op) (Follows before after) before :=
    Timely.change fun now trial h => repeatable.arrives number now trial h.1 h.2
  have returns (outcome : Except StoreError α) (lag : Nat) : Timely (some due) (Follows before after outcome)
      (Timed.wait lag) (fun _ => Follows before after outcome) before :=
    Timely.wait_lasting lag (fun _ _ _ h order => repeatable.lasting h order) fun _ _ h => repeatable.weakened h
  cases passage with
  | answered travel lag =>
    exact (travels travel).bind fun _ => arrives.bind fun outcome =>
      (returns outcome lag).bind fun _ => Timely.pure fun _ _ h => h
  | unheard travel lag failure =>
    exact (travels travel).bind fun _ => arrives.bind fun outcome =>
      (returns outcome lag).bind fun _ => Timely.pure fun _ _ h => repeatable.weakened h
  | missed travel failure => exact (travels travel).bind fun _ => Timely.pure fun _ _ h => h.2

theorem timely_attempt (due : Nat) (schedule : Nat → Passage) :
    Timely (some due) before ((Trial.remote schedule).call op) (Follows before after) before := by
  have departs : Timely (some due) before Trial.depart
      (fun number now trial => number + 1 = trial.attempts ∧ before now trial) before :=
    Timely.change fun now trial h => ⟨rfl, repeatable.departs now trial h⟩
  exact departs.bind fun number => repeatable.timely_carry due number (schedule number)

theorem total (policy : RetryPolicy) (schedule : Nat → Passage) {start : Moment Trial}
    (running : start.Running none) (h : before start.now start.state) :
    ∃ outcome stop, ((policy.guard Timed.timing (Trial.remote schedule)).call op).runFrom start =
      (.ok outcome, stop) ∧ Follows before after outcome stop.now stop.state := by
  have timely : Timely none before ((policy.guard Timed.timing (Trial.remote schedule)).call op)
      (Follows before after) (fun _ _ => False) :=
    timely_attempts (fun due => repeatable.timely_attempt due schedule)
      (fun _ now later trial h order => repeatable.waits now later trial h order) policy.maxRetries
  obtain ⟨outcome, stop, run, _, follows⟩ := timely.total running h
  exact ⟨outcome, stop, run, follows⟩

end Repeatable

end VoterSession.Scenario
