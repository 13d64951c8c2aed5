import VoterSession.Violation
set_option autoImplicit false

/-!
The stretch of time in which a service answers, in Unix seconds: from its first moment on, up to and
without its last.
-/
namespace VoterSession

/-- Whether the two bounds, where both are given, leave a moment between them. -/
def ServiceWindow.Ordered : Option Nat → Option Nat → Prop
  | some start, some stop => start < stop
  | _, _ => True

instance (start stop : Option Nat) : Decidable (ServiceWindow.Ordered start stop) := by
  unfold ServiceWindow.Ordered
  split <;> infer_instance

/-- The bounds of a service; without them it always answers. -/
structure ServiceWindow where
  notBefore : Option Nat := none
  notAfter : Option Nat := none
  ordered : ServiceWindow.Ordered notBefore notAfter := by trivial

namespace ServiceWindow

def ofBounds (notBefore notAfter : Option Nat) : Except Violation ServiceWindow :=
  if h : Ordered notBefore notAfter then .ok ⟨notBefore, notAfter, h⟩
  else .error (.invalidValue "service_window" "not_before must be earlier than not_after")

def always : ServiceWindow := {}

def contains (window : ServiceWindow) (now : Nat) : Bool :=
  window.notBefore.all (· ≤ now) && window.notAfter.all (now < ·)

end ServiceWindow

end VoterSession
