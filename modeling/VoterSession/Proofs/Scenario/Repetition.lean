import Mathlib.Algebra.BigOperators.Group.Finset.Basic
import Mathlib.Algebra.Group.Action.Defs
import Mathlib.Algebra.Order.BigOperators.Group.Finset
import Mathlib.Tactic.ByContra
import VoterSession.Proofs.Scenario.Calls
set_option autoImplicit false

/-!
Repeated attempts at a store that may react to each of them in any way: how many attempts are made, which
outcome is returned, and how much time passes. Main statement: `repetition_exact`.
-/
namespace VoterSession.Scenario

open Timed

inductive Reaction (α : Type) where
  | answer (delay : Nat) (outcome : Except StoreError α)
  | silence

namespace Reaction

variable {α σ : Type}

def play : Reaction α → Timed σ (Except StoreError α)
  | answer delay outcome => do
    Timed.wait delay
    return outcome
  | silence => Timed.hang

def outcome (patience : Nat) : Reaction α → Except StoreError α
  | answer delay outcome => if delay ≤ patience then outcome else .error (.timeout patience)
  | silence => .error (.timeout patience)

def span (patience : Nat) : Reaction α → Nat
  | answer delay _ => min delay patience
  | silence => patience

theorem span_le (patience : Nat) (reaction : Reaction α) : reaction.span patience ≤ patience := by
  cases reaction with
  | answer delay outcome => exact Nat.min_le_right delay patience
  | silence => exact Nat.le_refl patience

theorem timely_play (reaction : Reaction α) (time patience : Nat) (state : σ) :
    Timely (some (time + patience)) (fun now s => now = time ∧ s = state) reaction.play
      (fun answer now s => answer = reaction.outcome patience ∧ now = time + reaction.span patience ∧ s = state)
      (fun now s => .error (.timeout patience) = reaction.outcome patience ∧
        now = time + reaction.span patience ∧ s = state) := by
  cases reaction with
  | silence =>
    refine Timely.hang ?_
    rintro now s ⟨rfl, rfl⟩ _
    exact ⟨rfl, rfl, rfl⟩
  | answer delay result =>
    have waited : Timely (some (time + patience)) (fun now s => now = time ∧ s = state)
        (wait delay : Timed σ Unit) (fun _ now s => delay ≤ patience ∧ now = time + delay ∧ s = state)
        (fun now s => patience < delay ∧ now = time + patience ∧ s = state) := by
      refine Timely.wait delay ?_ ?_
      · rintro now s ⟨rfl, rfl⟩ in_time
        have fits := in_time _ rfl
        exact ⟨by omega, rfl, rfl⟩
      · rintro now due s ⟨rfl, rfl⟩ ⟨⟩ _ late
        exact ⟨by omega, rfl, rfl⟩
    refine Timely.bind (waited.mono (fun _ _ h => h) (fun _ _ _ h => h) ?_) fun _ => Timely.pure ?_
    · rintro now s ⟨late, rfl, rfl⟩
      have slow : ¬ delay ≤ patience := by omega
      have first : min delay patience = patience := by omega
      simp only [outcome, span, if_neg slow, first]
      exact ⟨trivial, trivial, trivial⟩
    · rintro now s ⟨fits, rfl, rfl⟩
      have first : min delay patience = delay := by omega
      simp only [outcome, span, if_pos fits, first]
      exact ⟨trivial, trivial, trivial⟩

end Reaction

def reacting (react : {α : Type} → StoreOp α → Nat → Reaction α) : StoreClient (Timed Nat) where
  call op := do
    let number ← Timed.change fun _ count => (count, count + 1)
    (react op number).play

/-- Of attempts with these outcomes, numbered from zero, the one with number `n` is the last one if `left`
repetitions are allowed: it is the first whose failure does not pass, or has no repetition left. -/
structure Stops {α : Type} (left : Nat) (outcome : Nat → Except StoreError α) (n : Nat) : Prop where
  allowed : n ≤ left
  repeated : ∀ i < n, Passing (outcome i)
  settled : n < left → ¬ Passing (outcome n)

namespace Stops

variable {α : Type} {left n : Nat} {outcome : Nat → Except StoreError α}

theorem zero (outcome : Nat → Except StoreError α) : Stops 0 outcome 0 :=
  ⟨Nat.le_refl 0, nofun, nofun⟩

theorem first (last : ¬ Passing (outcome 0)) (left : Nat) : Stops left outcome 0 :=
  ⟨Nat.zero_le left, nofun, fun _ => last⟩

theorem succ (again : Passing (outcome 0)) (rest : Stops left (fun i => outcome (i + 1)) n) :
    Stops (left + 1) outcome (n + 1) where
  allowed := Nat.add_le_add_right rest.allowed 1
  repeated := by
    intro i before
    cases i with
    | zero => exact again
    | succ i => exact rest.repeated i (Nat.lt_of_succ_lt_succ before)
  settled := fun before => rest.settled (Nat.lt_of_succ_lt_succ before)

theorem le_of_not_passing (stops : Stops left outcome n) {i : Nat} (last : ¬ Passing (outcome i)) : n ≤ i := by
  by_contra beyond
  exact last (stops.repeated i (Nat.lt_of_not_le beyond))

theorem eq_of_success (stops : Stops left outcome n) {i : Nat} {answer : α} (allowed : i ≤ left)
    (failures : ∀ j < i, Passing (outcome j)) (success : outcome i = .ok answer) : n = i := by
  have bound := stops.le_of_not_passing (i := i) (by simp [success])
  by_contra different
  have early : n < i := by omega
  exact stops.settled (by omega) (failures n early)

end Stops

variable {α : Type} (policy : RetryPolicy) (react : {α : Type} → StoreOp α → Nat → Reaction α)

def attempted (op : StoreOp α) (number : Nat) : Except StoreError α :=
  (react op number).outcome policy.opTimeout

def spent (op : StoreOp α) (number count : Nat) : Nat :=
  ∑ i ∈ Finset.range count, (react op (number + i)).span policy.opTimeout

theorem spent_le (op : StoreOp α) (number count : Nat) :
    spent policy react op number count ≤ count * policy.opTimeout := by
  unfold spent
  calc ∑ i ∈ Finset.range count, (react op (number + i)).span policy.opTimeout
      ≤ ∑ _i ∈ Finset.range count, policy.opTimeout :=
        Finset.sum_le_sum fun i _ => (react op (number + i)).span_le policy.opTimeout
    _ = count * policy.opTimeout := by rw [Finset.sum_const, Finset.card_range, smul_eq_mul]

theorem spent_one (op : StoreOp α) (number : Nat) :
    spent policy react op number 1 = (react op number).span policy.opTimeout :=
  Finset.sum_range_one _

theorem spent_succ (op : StoreOp α) (number count : Nat) :
    spent policy react op number (count + 1) =
      (react op number).span policy.opTimeout + spent policy react op (number + 1) count := by
  unfold spent
  rw [Finset.sum_range_succ', Nat.add_comm, Nat.add_zero]
  congr 1
  refine Finset.sum_congr rfl fun i _ => ?_
  rw [Nat.add_right_comm, Nat.add_assoc]

theorem timely_reaction (op : StoreOp α) (time number : Nat) (cut : Nat → Nat → Prop) :
    Timely none (fun now count => now = time ∧ count = number)
      (policy.once Timed.timing ((reacting react).call op))
      (fun answer now count => answer = attempted policy react op number ∧
        now = time + (react op number).span policy.opTimeout ∧ count = number + 1) cut := by
  refine timely_once fun started => ?_
  refine Timely.given (fun _ _ h => h.1.symm.trans h.2.1) ?_
  rintro rfl
  have counted (cut : Nat → Nat → Prop) : Timely (some (started + policy.opTimeout))
      (fun now count => now = started ∧ now = started ∧ count = number)
      (Timed.change fun _ count => (count, count + 1))
      (fun answer now count => answer = number ∧ now = started ∧ count = number + 1) cut := by
    refine Timely.change ?_
    rintro now count ⟨_, rfl, rfl⟩
    exact ⟨rfl, rfl, rfl⟩
  exact (counted _).bind_known ((react op number).timely_play started policy.opTimeout (number + 1))

theorem timely_reactions (op : StoreOp α) (left time number : Nat) (cut : Nat → Nat → Prop) :
    ∃ n, Stops left (fun i => attempted policy react op (number + i)) n ∧
      Timely none (fun now count => now = time ∧ count = number)
        (policy.attempts Timed.timing ((reacting react).call op) left)
        (fun answer now count => answer = attempted policy react op (number + n) ∧
          now = time + spent policy react op number (n + 1) + n * policy.backoff ∧ count = number + (n + 1))
        cut := by
  have once := timely_reaction policy react op
  have only : ∀ time number answer now count, (answer = attempted policy react op number ∧
      now = time + (react op number).span policy.opTimeout ∧ count = number + 1) →
      answer = attempted policy react op (number + 0) ∧
        now = time + spent policy react op number (0 + 1) + 0 * policy.backoff ∧ count = number + (0 + 1) := by
    rintro time number answer now count ⟨rfl, rfl, rfl⟩
    rw [spent_one, Nat.zero_mul]
    exact ⟨rfl, rfl, rfl⟩
  induction left generalizing time number with
  | zero =>
    exact ⟨0, Stops.zero _, (once time number cut).mono (fun _ _ h => h) (only time number) fun _ _ h => h⟩
  | succ left ih =>
    by_cases passes : Passing (attempted policy react op number)
    · -- the attempts after the pause are numbered and timed from there
      let resumed := time + (react op number).span policy.opTimeout + policy.backoff
      obtain ⟨n, stops, rest⟩ := ih resumed (number + 1)
      have next : ∀ i, number + 1 + i = number + (i + 1) := fun i => by omega
      simp only [next] at stops rest
      refine ⟨n + 1, stops.succ passes, timely_attempts_succ (once time number cut) ?_ fun failure _ => ?_⟩
      · rintro outcome now count settled ⟨rfl, _⟩
        exact absurd passes settled
      · refine rest.mono ?_ ?_ fun _ _ h => h
        · rintro now count ⟨earlier, rfl, _, rfl, rfl⟩
          exact ⟨rfl, rfl⟩
        · rintro answer now count ⟨rfl, rfl, rfl⟩
          rw [spent_succ policy react op number (n + 1), Nat.succ_mul]
          exact ⟨rfl, by simp only [resumed]; omega, by omega⟩
    · refine ⟨0, Stops.first passes _, timely_attempts_succ (once time number cut) ?_ fun failure transient => ?_⟩
      · exact fun outcome now count _ h => only time number outcome now count h
      · refine Timely.unreachable ?_
        rintro now count ⟨_, _, same, _⟩
        exact passes ⟨failure, same.symm, transient⟩

def budget : Nat := (policy.maxRetries + 1) * policy.opTimeout + policy.maxRetries * policy.backoff

theorem timely_within_budget (op : StoreOp α) (time number : Nat) (cut : Nat → Nat → Prop) :
    Timely none (fun now count => now ≤ time ∧ count ≤ number)
      ((policy.guard Timed.timing (reacting react)).call op)
      (fun _ now count => now ≤ time + budget policy ∧ count ≤ number + (policy.maxRetries + 1)) cut := by
  refine Timely.of_start fun begun before ⟨in_time, few⟩ => ?_
  obtain ⟨n, stops, exact_attempts⟩ := timely_reactions policy react op policy.maxRetries begun before cut
  refine exact_attempts.mono (fun _ _ h => h) ?_ fun _ _ h => h
  rintro answer now count ⟨_, rfl, rfl⟩
  have allowed := stops.allowed
  have attempts : spent policy react op before (n + 1) ≤ (policy.maxRetries + 1) * policy.opTimeout :=
    Nat.le_trans (spent_le policy react op before (n + 1))
      (Nat.mul_le_mul_right _ (Nat.succ_le_succ allowed))
  have pauses : n * policy.backoff ≤ policy.maxRetries * policy.backoff := Nat.mul_le_mul_right _ allowed
  refine ⟨?_, by omega⟩
  unfold budget
  omega

def steadfast (window : ServiceWindow) (reading : Nat → Nat → Nat) : StatusService (Timed Nat) where
  store := policy.guard Timed.timing (reacting react)
  window := window
  clock := glance reading

theorem timely_verification (verifier : Verifier) (window : ServiceWindow) (reading : Nat → Nat → Nat)
    (header : Header) (method : Method) (transport : Transport) (time number : Nat) (cut : Nat → Nat → Prop) :
    Timely none (fun now count => now ≤ time ∧ count ≤ number)
      (verifier.verify (steadfast policy react window reading).client header method transport)
      (fun _ now count => now ≤ time + 2 * budget policy ∧ count ≤ number + 2 * (policy.maxRetries + 1)) cut := by
  let halfway (now count : Nat) : Prop := now ≤ time + budget policy ∧ count ≤ number + (policy.maxRetries + 1)
  let done (now count : Nat) : Prop :=
    now ≤ time + 2 * budget policy ∧ count ≤ number + 2 * (policy.maxRetries + 1)
  have begun : ∀ now count, now ≤ time ∧ count ≤ number → halfway now count :=
    fun now count h => ⟨by omega, by omega⟩
  have rest : ∀ now count, halfway now count → done now count :=
    fun now count h => ⟨by have := h.1; omega, by have := h.2; omega⟩
  have second {β : Type} (op : StoreOp β) :
      Timely none halfway ((policy.guard Timed.timing (reacting react)).call op) (fun _ => done) cut :=
    (timely_within_budget policy react op _ _ cut).mono (fun _ _ h => h)
      (fun _ now count h => ⟨by have := h.1; omega, by have := h.2; omega⟩) fun _ _ h => h
  have ticking : (steadfast policy react window reading).clock = glance reading := rfl
  refine timely_verify (fun _ => halfway) ?_ ?_ ?_ ?_
  · exact fun violation now count h => rest now count (begun now count h)
  · exact fun valid => timely_read ticking valid
      (timely_within_budget policy react _ time number cut) fun _ => begun
  · exact fun answer failure now count _ => rest now count
  · intro response plan _
    cases plan.write with
    | update request =>
      exact timely_update ticking (fun _ => second _) fun _ => rest
    | delete request =>
      exact timely_delete ticking (second _) fun _ => rest

/-- Whatever the store does at each attempt, an operation makes attempts until one does not fail for a reason
that may pass or no repetition is left, and returns the outcome of the last one. The time it takes is that of
its attempts, each cut short by the timeout of the policy, and of a pause between any two of them. A verification
takes no more than two operations. -/
theorem repetition_exact {start : Moment Nat} (running : start.Running none) :
    (∀ {α : Type} (op : StoreOp α), ∃ n stop,
      Stops policy.maxRetries (fun i => attempted policy react op (start.state + i)) n ∧
      ((policy.guard Timed.timing (reacting react)).call op).runFrom start =
        (.ok (attempted policy react op (start.state + n)), stop) ∧
      stop.state = start.state + (n + 1) ∧ n + 1 ≤ 11 ∧
      stop.now = start.now + spent policy react op start.state (n + 1) + n * policy.backoff ∧
      (∀ i answer, i ≤ policy.maxRetries →
        (∀ j < i, Passing (attempted policy react op (start.state + j))) →
        attempted policy react op (start.state + i) = .ok answer → n = i) ∧
      ∀ i lease, attempted policy react op (start.state + i) = .error (.leaseNotFound lease) → n ≤ i) ∧
    ∀ (verifier : Verifier) (window : ServiceWindow) (reading : Nat → Nat → Nat) (header : Header)
      (method : Method) (transport : Transport), ∃ result stop,
      (verifier.verify (steadfast policy react window reading).client header method transport).runFrom start =
        (.ok result, stop) ∧
      stop.state ≤ start.state + 2 * (policy.maxRetries + 1) ∧
      stop.now ≤ start.now +
        2 * ((policy.maxRetries + 1) * policy.opTimeout + policy.maxRetries * policy.backoff) := by
  refine ⟨?_, ?_⟩
  · intro α op
    obtain ⟨n, stops, attempts⟩ := timely_reactions policy react op policy.maxRetries start.now start.state
      fun _ _ => False
    obtain ⟨answer, stop, run, _, rfl, now, count⟩ := attempts.total running ⟨rfl, rfl⟩
    refine ⟨n, stop, stops, run, count, ?_, now, ?_, ?_⟩
    · exact Nat.succ_le_succ (Nat.le_trans stops.allowed policy.maxRetries_le)
    · exact fun i answer allowed failures success => stops.eq_of_success allowed failures success
    · intro i lease missing
      refine stops.le_of_not_passing ?_
      simp [missing, StoreError.isTransient]
  · intro verifier window reading header method transport
    have verification := timely_verification policy react verifier window reading header method transport
      start.now start.state fun _ _ => False
    obtain ⟨result, stop, run, _, now, count⟩ :=
      verification.total running ⟨Nat.le_refl _, Nat.le_refl _⟩
    exact ⟨result, stop, run, count, now⟩

def flaky {α : Type} (op : StoreOp α) : Nat → Reaction α
  | 0 => .answer 10 (.error (.unavailable "reset"))
  | 1 => .silence
  | _ => match op with
    | .get _ => .answer 30 (.ok none)
    | .put .. => .answer 30 (.ok ())
    | .delete _ => .answer 30 (.ok ())

theorem third_attempt_answers : ({ state := 0 } : Moment Nat).Running none ∧
    ∃ stop, ((RetryPolicy.standard.guard Timed.timing (reacting flaky)).call (.get "k")).runFrom { state := 0 } =
      (.ok (.ok none), stop) ∧ stop.state = 3 ∧ stop.now = 10 + 5000 + 30 + 2 * 200 := by
  have running : ({ state := 0 } : Moment Nat).Running none := ⟨Nat.le_refl 0, rfl, nofun⟩
  obtain ⟨n, stop, _, run, count, _, now, success, _⟩ :=
    (repetition_exact RetryPolicy.standard flaky running).1 (.get "k")
  have third : n = 2 := by
    refine success 2 none (by decide) ?_ rfl
    intro j early
    obtain rfl | rfl : j = 0 ∨ j = 1 := by omega
    · exact ⟨_, rfl, rfl⟩
    · exact ⟨_, rfl, rfl⟩
  subst third
  exact ⟨running, stop, run, count, now⟩

end VoterSession.Scenario
