import VoterSession.Store.Basic
set_option autoImplicit false

/-!
Bounded, repeated attempts. Each attempt may take so long; one that fails for a reason that may pass
is repeated after a pause, a bounded number of times. The computation `m` supplies the passing of time.
-/
namespace VoterSession

/-- How a store is called. The bounds are part of the type. -/
structure RetryPolicy where
  /-- The longest wait for one attempt, in milliseconds. -/
  opTimeout : Nat := 5000
  maxRetries : Nat := 3
  /-- The pause before a repetition, in milliseconds. -/
  backoff : Nat := 200
  opTimeout_pos : 1 ≤ opTimeout := by decide
  opTimeout_le : opTimeout ≤ 60000 := by decide
  maxRetries_le : maxRetries ≤ 10 := by decide
  backoff_le : backoff ≤ 10000 := by decide

structure Timing (m : Type → Type) where
  /-- Runs a computation for so many milliseconds; none when it has not answered by then. -/
  within : {α : Type} → Nat → m α → m (Option α)
  pause : Nat → m Unit

namespace RetryPolicy

def maxOpTimeout : Nat := 60000

def maxMaxRetries : Nat := 10

def maxBackoff : Nat := 10000

def standard : RetryPolicy := {}

/-- A count as the signed 64-bit number shown in a message. -/
def shown (n : Nat) : Int := min n Text.Decimal.maxInt64

/-- The policy with these numbers; the first one out of range is reported. -/
def ofNumbers (opTimeout maxRetries backoff : Nat) : Except Violation RetryPolicy :=
  if timeout_ok : 1 ≤ opTimeout ∧ opTimeout ≤ maxOpTimeout then
    if retries_ok : maxRetries ≤ maxMaxRetries then
      if backoff_ok : backoff ≤ maxBackoff then
        .ok ⟨opTimeout, maxRetries, backoff, timeout_ok.1, timeout_ok.2, retries_ok, backoff_ok⟩
      else .error (.invalidRange "lease_store_config.retry_backoff_ms" 0 maxBackoff (shown backoff))
    else .error (.invalidRange "lease_store_config.max_retries" 0 maxMaxRetries (shown maxRetries))
  else .error (.invalidRange "lease_store_config.op_timeout_ms" 1 maxOpTimeout (shown opTimeout))

variable {m : Type → Type} [Monad m] {α : Type}

def once (policy : RetryPolicy) (timing : Timing m) (attempt : m (Except StoreError α)) :
    m (Except StoreError α) := do
  match ← timing.within policy.opTimeout attempt with
  | some outcome => return outcome
  | none => return .error (.timeout policy.opTimeout)

/-- Attempts until one succeeds, fails for good, or no repetition is left. -/
def attempts (policy : RetryPolicy) (timing : Timing m) (attempt : m (Except StoreError α)) :
    Nat → m (Except StoreError α)
  | 0 => policy.once timing attempt
  | left + 1 => do
    match ← policy.once timing attempt with
    | .ok answer => return .ok answer
    | .error failure =>
      if failure.isTransient then do
        timing.pause policy.backoff
        policy.attempts timing attempt left
      else return .error failure

def run (policy : RetryPolicy) (timing : Timing m) (attempt : m (Except StoreError α)) :
    m (Except StoreError α) :=
  policy.attempts timing attempt policy.maxRetries

def guard (policy : RetryPolicy) (timing : Timing m) (store : StoreClient m) : StoreClient m where
  call op := policy.run timing (store.call op)

end RetryPolicy

end VoterSession
