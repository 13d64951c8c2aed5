import VoterSession.Scenario.Timed
set_option autoImplicit false

/-!
Faults of a store: what can go wrong with one attempt at an operation. An attempt may fail before it
reaches the store, after it took effect, or take its time on either side.
-/
namespace VoterSession.Scenario

inductive Fault where
  | plain
  /-- Neither takes effect nor answers. -/
  | hang
  /-- Takes effect after so many milliseconds. -/
  | delay (millis : Nat)
  /-- Fails and does not take effect. -/
  | fail (failure : StoreError)
  /-- Takes effect, but its answer is lost. -/
  | loseAnswer (text : String)
  /-- Takes effect, and answers so many milliseconds later. -/
  | answerLate (millis : Nat)
deriving DecidableEq

def Fault.apply {σ α : Type} (attempt : Timed σ (Except StoreError α)) :
    Fault → Timed σ (Except StoreError α)
  | plain => attempt
  | hang => Timed.hang
  | delay millis => do
    Timed.wait millis
    attempt
  | fail failure => return .error failure
  | loseAnswer text => do
    match ← attempt with
    | .ok _ => return .error (.unavailable text)
    | .error failure => return .error failure
  | answerLate millis => do
    let answer ← attempt
    Timed.wait millis
    return answer

end VoterSession.Scenario
