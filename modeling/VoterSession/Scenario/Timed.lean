import VoterSession.Store.Retry
set_option autoImplicit false

/-!
Computations over virtual time. Time passes where a computation waits, by exactly as much as it waits
for, and where it turns the clock forward itself. A computation can be given a deadline. Deadlines are
looked at only when a computation is about to wait: one that would wait beyond a deadline is cut off
there and keeps what it did before, and one that answers without waiting is in time, however late it
is. A deadline passed over by turning the clock is noticed at the next wait.
-/
namespace VoterSession.Scenario

/-- What a computation starts from: the time, the time up to which passed deadlines have been noticed,
the earliest deadline around it, and a state. Times are milliseconds. -/
structure Moment (σ : Type) where
  now : Nat := 0
  seen : Nat := 0
  deadline : Option Nat := none
  state : σ

/-- How a computation ends without a result: the deadlines up to this time have been noticed to pass, and
the innermost of them cuts it off. -/
structure CutOff where
  passed : Nat
deriving DecidableEq

abbrev Timed (σ : Type) : Type → Type := ExceptT CutOff (StateM (Moment σ))

namespace Timed

variable {σ α : Type}

def runFrom (computation : Timed σ α) (start : Moment σ) : Except CutOff α × Moment σ :=
  StateT.run (m := Id) (ExceptT.run computation) start

def ofStep (step : Moment σ → Except CutOff α × Moment σ) : Timed σ α :=
  ExceptT.mk (m := StateM (Moment σ)) fun start => (step start : Id _)

@[simp] theorem runFrom_ofStep (step : Moment σ → Except CutOff α × Moment σ) (start : Moment σ) :
    (ofStep step).runFrom start = step start := rfl

@[simp] theorem runFrom_pure (a : α) (start : Moment σ) :
    (pure a : Timed σ α).runFrom start = (.ok a, start) := rfl

theorem runFrom_bind {β : Type} (first : Timed σ α) (next : α → Timed σ β) (start : Moment σ) :
    (first >>= next).runFrom start =
      match first.runFrom start with
      | (.ok a, stop) => (next a).runFrom stop
      | (.error cut, stop) => (.error cut, stop) := by
  simp only [runFrom, ExceptT.run_bind, StateT.run_bind]
  rcases h : StateT.run (m := Id) (ExceptT.run first) start with ⟨answer, stop⟩
  cases answer <;> rfl

def now : Timed σ Nat := ofStep fun start => (.ok start.now, start)

def change (f : Nat → σ → α × σ) : Timed σ α := ofStep fun start =>
  let (answer, state) := f start.now start.state
  (.ok answer, { start with state })

/-- Waits for an answer that comes at its time, or never. A deadline that was noticed before cuts off at
once; else time goes on to the answer or to the earliest deadline, and an answer that comes at the deadline
itself is in time. -/
def await (answer : Option (Nat × α)) : Timed σ α := ofStep fun start =>
  if start.deadline.any (· ≤ start.seen) then (.error ⟨start.seen⟩, start)
  else
    let ends := (answer.map Prod.fst).toList ++ start.deadline.toList
    let time := max start.now (ends.min?.getD start.now)
    let stop := { start with now := time, seen := time }
    match answer.filter (·.1 ≤ time) with
    | some (_, value) => (.ok value, stop)
    | none => (.error ⟨time⟩, stop)

/-- Lets so many milliseconds pass. An end that has been noticed before needs no waiting. -/
def wait (millis : Nat) : Timed σ Unit := ofStep fun start =>
  let due := start.now + millis
  if due ≤ start.seen then (.ok (), start) else (await (some (due, ()))).runFrom start

def advance (millis : Nat) : Timed σ Unit := ofStep fun start =>
  let due := start.now + millis
  (await (some (due, ()))).runFrom { start with now := due }

def hang : Timed σ α := await none

/-- Runs a computation for so many milliseconds. The result is none when this deadline cuts it off; a
deadline farther out that does so cuts off this computation too. -/
def within (millis : Nat) (computation : Timed σ α) : Timed σ (Option α) := ofStep fun start =>
  let own := start.now + millis
  let earliest := start.deadline.elim own (min own)
  let (answer, stop) := computation.runFrom { start with deadline := some earliest }
  let stop := { stop with deadline := start.deadline }
  match answer with
  | .ok answer => (.ok (some answer), stop)
  | .error cut => if own ≤ cut.passed then (.ok none, stop) else (.error cut, stop)

def timing : Timing (Timed σ) where
  within := within
  pause := wait

end Timed

end VoterSession.Scenario
