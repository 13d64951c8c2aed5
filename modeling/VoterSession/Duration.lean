import VoterSession.Text.Decimal
set_option autoImplicit false

/-!
Lengths of time in seconds and nanoseconds, and their whole milliseconds.
-/
namespace VoterSession

structure Duration where
  seconds : Nat
  nanos : Nat := 0
deriving DecidableEq

namespace Duration

/-- The whole milliseconds; more than a 64-bit word holds count as its largest value. -/
def millis (duration : Duration) : Nat :=
  min (duration.seconds * 1000 + duration.nanos / 1000000) Text.Decimal.maxWord64

def ofMillis (n : Nat) : Duration := ⟨n / 1000, n % 1000 * 1000000⟩

theorem millis_ofMillis (n : Nat) (h : n ≤ Text.Decimal.maxWord64) : (ofMillis n).millis = n := by
  simp only [millis, ofMillis]
  omega

end Duration

end VoterSession
