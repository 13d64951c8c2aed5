import VoterSession.Config.Client
import VoterSession.Scenario.Fault
import VoterSession.Wire.Draft
set_option autoImplicit false

/-!
The steps of a scenario and their answers. A step acts on the store, on its sessions, on the service,
on the client of the service, or on the scenario itself: its time and the events that wait for the
attempts to come. Whatever a step is given is as it comes from outside, so a step may fail before it
does anything.
-/
namespace VoterSession.Scenario

open Wire

mutual

inductive Event where
  | fault (fault : Fault)
  /-- Another step happens, from its beginning to its end, just before the attempt. -/
  | interleave (step : Step)

inductive Step where
  | advance (millis : Nat)
  /-- Sets the clock that the service checks its window against. -/
  | setNow (seconds : Nat)
  /-- Replaces the events that wait for the next attempts. -/
  | events (events : List Event)
  /-- Writes to the store; `direct` goes around faults and repetitions. -/
  | put (key : String) (value : Bytes) (lease : LeaseId) (ttl : Nat) (direct : Bool)
  | get (key : String) (direct : Bool)
  | delete (key : String) (direct : Bool)
  | timeToLive (lease : LeaseId)
  | readSession (id : String)
  | updateSession (id : String) (caller : Method) (auth : AuthTag) (lease : LeaseId) (ttl : Nat)
  | deleteSession (id : String)
  | service (draft : Draft)
  | client (draft : Draft)
  /-- Makes a remote call at the service's side. -/
  | remote (request : WireRequest)
  | verify (kind : WorkflowKind) (completion : VoteCompletion) (method : Method) (transport : Transport)
    (header : HeaderMessage)

end

mutual

def Event.interleavings : Event → Nat
  | .fault _ => 0
  | .interleave step => Step.interleavings step + 1

def Step.interleavings : Step → Nat
  | .events events => interleavingsOf events
  | _ => 0

def interleavingsOf : List Event → Nat
  | [] => 0
  | event :: events => Event.interleavings event + interleavingsOf events

end

inductive Failure where
  | contract (violation : Violation)
  | store (source : StoreError)
  | repo (source : RepoError)
  | service (source : ServiceError)
  | client (source : ClientError)
  | status (source : Status)
  | verify (source : VerifyError)
  | config (source : Config.ConfigError)
  | unanswered
deriving DecidableEq

inductive Outcome where
  | done
  | stored (value : Option StoredValue)
  | remaining (millis : Option Nat)
  | record (record : SessionRecord)
  | answer (answer : Answer)
  | remote (answer : WireAnswer)
  | accepted (transition : AcceptedTransition)
deriving DecidableEq

inductive StepAnswer where
  /-- The result, the live keys and leases, the attempts so far, the time, and the answers of the steps
  that were interleaved. -/
  | mk (result : Except Failure Outcome) (keys leases attempts clock : Nat) (nested : List StepAnswer)

end VoterSession.Scenario
