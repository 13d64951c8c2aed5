import VoterSession.Scenario.Step
import VoterSession.Store.Memory
set_option autoImplicit false

/-!
The state of a scenario, and the store as a scenario sees it: in memory, and behind the events that
happen to its attempts.
-/
namespace VoterSession.Scenario

structure World where
  store : LeaseStore := .empty
  /-- The clock of the service, in Unix seconds. -/
  serviceNow : Nat := 0
  /-- What happens to the next attempts; to later ones nothing does. -/
  events : List Event := []
  attempts : Nat := 0
  /-- The answers of interleaved steps that no answer has taken up. -/
  nested : List StepAnswer := []

namespace World

def update (f : World → World) : Timed World Unit := Timed.change fun _ world => ((), f world)

def withStore {α : Type} (f : Nat → LeaseStore → α × LeaseStore) : Timed World α :=
  Timed.change fun now world =>
    let (answer, store) := f now world.store
    (answer, { world with store })

def memory : StoreClient (Timed World) where
  call op := withStore fun now store => store.step now op

def nextEvent : Timed World Event := Timed.change fun _ world =>
  match world.events with
  | [] => (.fault .plain, { world with attempts := world.attempts + 1 })
  | event :: events => (event, { world with events, attempts := world.attempts + 1 })

def eventful (interleave : Step → Timed World Unit) : StoreClient (Timed World) where
  call op := do
    match ← nextEvent with
    | .fault fault => fault.apply (memory.call op)
    | .interleave step => do
      interleave step
      memory.call op

def clock : Timed World Nat := Timed.change fun _ world => (world.serviceNow, world)

def takeNested : Timed World (List StepAnswer) := Timed.change fun _ world =>
  (world.nested, { world with nested := [] })

def addNested (answer : StepAnswer) : Timed World Unit :=
  update fun world => { world with nested := world.nested ++ [answer] }

end World

end VoterSession.Scenario
