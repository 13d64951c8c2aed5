import VoterSession.Scenario.World
import VoterSession.Wire.Remote
set_option autoImplicit false

/-!
Carrying out a scenario: its steps one after another over one store, with an answer for each. The
stack is the store in memory, the events of the scenario, the repetitions of a policy if there is one,
the sessions, the service, and a client of the service, in the same process or at the end of a channel.
-/
namespace VoterSession.Scenario

open Wire

inductive Seam where
  | inProcess
  | unreachable
deriving DecidableEq

structure Setup where
  policy : Option RetryPolicy := none
  window : ServiceWindow := .always
  ttls : StageTtls := .standard
  seam : Seam := .inProcess

/-- The setup of parts that have been checked. The first part that was refused is reported. -/
def Setup.ofChecks (policy : Except Violation (Option RetryPolicy)) (window : Except Violation ServiceWindow)
    (ttls : Except Violation StageTtls) (seam : Seam) : Except Violation Setup := do
  return { policy := ← policy, window := ← window, ttls := ← ttls, seam }

structure Stack where
  direct : StoreClient (Timed World)
  store : StoreClient (Timed World)
  service : StatusService (Timed World)
  client : StatusClient (Timed World)

def Setup.stack (setup : Setup) (interleave : Step → Timed World Unit) : Stack :=
  let eventful := World.eventful interleave
  let store := match setup.policy with
    | none => eventful
    | some policy => policy.guard Timed.timing eventful
  let service : StatusService (Timed World) := { store, window := setup.window, clock := World.clock }
  let client := match setup.seam with
    | .inProcess => service.client
    | .unreachable => Channel.unreachable.client
  { direct := World.memory, store, service, client }

def Stack.storeFor (stack : Stack) (direct : Bool) : StoreClient (Timed World) :=
  if direct then stack.direct else stack.store

abbrev Attempted : Type → Type := ExceptT Failure (Timed World)

def require {ε α : Type} (layer : ε → Failure) (check : Except ε α) : Attempted α :=
  ExceptT.mk (pure (check.mapError layer))

def ask {ε α : Type} (layer : ε → Failure) (call : Timed World (Except ε α)) : Attempted α :=
  ExceptT.mk do return (← call).mapError layer

def verifierFor (ttls : StageTtls) (kind : WorkflowKind) (completion : VoteCompletion) :
    Except Config.ConfigError Verifier :=
  let config : Config.ClientConfig := { Config.ClientConfig.standard with ttls, voteCompletion := completion }
  config.verifier kind

def perform (ttls : StageTtls) (stack : Stack) : Step → Attempted Outcome
  | .advance millis => do
    liftM (Timed.advance millis : Timed World Unit)
    return .done
  | .setNow seconds => do
    liftM (World.update fun world => { world with serviceNow := seconds })
    return .done
  | .events events => do
    liftM (World.update fun world => { world with events })
    return .done
  | .put key value lease ttl direct => do
    let ttl ← require .contract (Ttl.ofSeconds ttl)
    ask .store ((stack.storeFor direct).call (.put key value lease ttl))
    return .done
  | .get key direct => do
    return .stored (← ask .store ((stack.storeFor direct).call (.get key)))
  | .delete key direct => do
    ask .store ((stack.storeFor direct).call (.delete key))
    return .done
  | .timeToLive lease => do
    return .remaining (← liftM (World.withStore fun now store => store.timeToLive now lease))
  | .readSession id => do
    let id ← require .contract (SessionId.ofText id)
    return .record (← ask .repo (Sessions.read stack.store id))
  | .updateSession id caller auth lease ttl => do
    let ttl ← require .contract (Ttl.ofSeconds ttl)
    let id ← require .contract (SessionId.ofText id)
    ask .repo (Sessions.update stack.store id caller auth lease ttl)
    return .done
  | .deleteSession id => do
    let id ← require .contract (SessionId.ofText id)
    ask .repo (Sessions.delete stack.store id)
    return .done
  | .service draft => do
    let request ← require .contract draft.request
    return .answer (← ask .service (request.dispatch stack.service.serve))
  | .client draft => do
    let request ← require .contract draft.request
    return .answer (← ask .client (request.dispatch stack.client.call))
  | .remote request => do
    return .remote (← ask .status (request.dispatch (handle stack.service)))
  | .verify kind completion method transport header => do
    let verifier ← require .config (verifierFor ttls kind completion)
    let header ← require .contract header.unchecked
    return .accepted (← ask .verify (verifier.verify stack.client header method transport))

def conclude (result : Except Failure Outcome) : Timed World StepAnswer := do
  let keys ← World.withStore LeaseStore.liveKeys
  let leases ← World.withStore LeaseStore.liveLeases
  let nested ← World.takeNested
  let clock ← Timed.now
  let attempts ← Timed.change fun _ world => (world.attempts, world)
  return .mk result keys leases attempts clock nested

/-- The answer of a step that may have steps interleaved, which may have steps interleaved in turn, to a
depth of at most `depth`. -/
def answerWithin (setup : Setup) : (depth : Nat) → Step → Timed World StepAnswer
  | 0, step => do
    conclude (← (perform setup.ttls (setup.stack fun _ => pure ()) step).run)
  | depth + 1, step => do
    let interleave inner := do World.addNested (← answerWithin setup depth inner)
    conclude (← (perform setup.ttls (setup.stack interleave) step).run)

def answerFrom (setup : Setup) (depth : Nat) (step : Step) (start : Moment World) :
    StepAnswer × Moment World :=
  match (answerWithin setup depth step).runFrom start with
  | (.ok answer, stop) => (answer, stop)
  | (.error _, stop) =>
    match (conclude (.error .unanswered)).runFrom stop with
    | (.ok answer, stop) => (answer, stop)
    | (.error _, stop) => (.mk (.error .unanswered) 0 0 0 stop.now [], stop)

def answersFrom (setup : Setup) (depth : Nat) : List Step → Moment World → List StepAnswer
  | [], _ => []
  | step :: steps, start =>
    let (answer, stop) := answerFrom setup depth step start
    answer :: answersFrom setup depth steps stop

/-- The answers of all steps over an empty store. No step is interleaved more often than it is written
down, so steps are interleaved in each other to no greater depth than there are interleavings. -/
def run (setup : Setup) (serviceNow : Nat) (steps : List Step) : List StepAnswer :=
  let depth := steps.foldl (fun total step => total + step.interleavings) 0
  answersFrom setup depth steps { state := { serviceNow } }

end VoterSession.Scenario
