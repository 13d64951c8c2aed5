set_option autoImplicit false

/-!
Waiting for the signal to stop. A service whose listener for the signal cannot be installed goes on
serving, so the wait ends only when a signal arrives.
-/
namespace VoterSession

/-- What became of the listener for the stop signal. -/
inductive StopSignal where
  | received
  | notInstalled
deriving DecidableEq

def StopSignal.endsWait : StopSignal → Bool
  | received => true
  | notInstalled => false

end VoterSession
