import VoterSession.Proofs.Service.Call
import VoterSession.Proofs.Service.Moment
set_option autoImplicit false

/-!
Any number of calls over one store. A call is a read message and, once that is answered, at most one
write message; messages of different calls are carried out in any order, a message may be carried out
again, its answer may be lost, and time passes in between. The history keeps what was read and what
landed, and no step looks at it.
-/
namespace VoterSession.Concurrent

structure Job where
  call : Call
  plan : Option Plan := none
  result : Option (Except VerifyError AcceptedTransition) := none

/-- What a message that was carried out did to the session of its call. -/
inductive Deed where
  | read (record : SessionRecord)
  | updated (request : UpdateRequest) (held : LeaseId)
  | deleted
deriving DecidableEq

structure Entry where
  job : Nat
  call : Call
  time : Nat
  deed : Deed

/-- The store, the calls in the order in which they were started, and the history, the latest first. -/
structure State where
  now : Nat := 0
  store : LeaseStore := .empty
  jobs : List Job := []
  history : List Entry := []

inductive Event where
  | wait (millis : Nat)
  | start (call : Call)
  /-- The service gets the read of a call; its answer arrives or is lost. -/
  | read (job serviceNow : Nat) (answered : Bool)
  /-- The service gets the write of a call, perhaps again; its answer arrives or is lost. -/
  | write (job serviceNow : Nat) (answered : Bool)
  /-- The call waits no longer for its answer. -/
  | fail (job : Nat) (failure : ClientError)

namespace Job

def opened (call : Call) : Job :=
  match Verifier.opening call.header with
  | .ok _ => { call }
  | .error failure => { call, result := some (.error failure) }

def judged (job : Job) (answer : Except ClientError ReadResponse) : Job :=
  match job.call.verifier.decision job.call.header job.call.method job.call.transport answer with
  | .ok plan => { job with plan := some plan }
  | .error failure => { job with result := some (.error failure) }

def concluded (job : Job) (plan : Plan) (answer : Except ClientError Ack) : Job :=
  match job.result with
  | none => { job with result := some (plan.conclude answer) }
  | some _ => job

def failed (job : Job) (failure : ClientError) : Job :=
  match job.result, job.plan with
  | none, none => { job with result := some (.error (.status failure)) }
  | none, some plan => { job with result := some (plan.conclude (.error failure)) }
  | some _, _ => job

end Job

namespace Deed

def ofWrite (now : Nat) (store : LeaseStore) : SessionWrite → Deed
  | .update request => .updated request
      ((store.seen now (Sessions.key request.header.sessionId)).elim .none Holding.lease)
  | .delete _ => .deleted

end Deed

namespace Entry

def session (entry : Entry) : SessionId := entry.call.session

def ofRead (job : Nat) (call : Call) (time : Nat) : Except ClientError ReadResponse → List Entry
  | .ok response => [⟨job, call, time, .read response.record⟩]
  | .error _ => []

def ofWrite (job : Nat) (call : Call) (time : Nat) (write : SessionWrite) (store : LeaseStore) :
    Except ClientError Ack → List Entry
  | .ok _ => [⟨job, call, time, .ofWrite time store write⟩]
  | .error _ => []

end Entry

namespace State

variable (window : ServiceWindow)

def read (i serviceNow : Nat) (answered : Bool) (state : State) : State :=
  match state.jobs[i]? with
  | none => state
  | some job =>
    match job.plan, job.result, Verifier.opening job.call.header with
    | none, none, .ok request =>
      let (answer, store) := request.deliver window serviceNow state.now state.store
      if answered then
        { state with
          store
          jobs := state.jobs.set i (job.judged answer)
          history := Entry.ofRead i job.call state.now answer ++ state.history }
      else { state with store }
    | _, _, _ => state

def write (i serviceNow : Nat) (answered : Bool) (state : State) : State :=
  match state.jobs[i]? with
  | none => state
  | some job =>
    match job.plan with
    | none => state
    | some plan =>
      let (answer, store) := plan.write.deliver window serviceNow state.now state.store
      { state with
        store
        jobs := if answered then state.jobs.set i (job.concluded plan answer) else state.jobs
        history := Entry.ofWrite i job.call state.now plan.write store answer ++ state.history }

def fail (i : Nat) (failure : ClientError) (state : State) : State :=
  match state.jobs[i]? with
  | none => state
  | some job => { state with jobs := state.jobs.set i (job.failed failure) }

def step (state : State) : Event → State
  | .wait millis => { state with now := state.now + millis }
  | .start call => { state with jobs := state.jobs ++ [.opened call] }
  | .read i serviceNow answered => state.read window i serviceNow answered
  | .write i serviceNow answered => state.write window i serviceNow answered
  | .fail i failure => state.fail i failure

end State

/-- The state after some events, from an empty store. -/
def run (window : ServiceWindow) (events : List Event) : State :=
  events.foldl (State.step window) {}

theorem run_append (window : ServiceWindow) (events more : List Event) :
    run window (events ++ more) = more.foldl (State.step window) (run window events) :=
  List.foldl_append ..

theorem run_concat (window : ServiceWindow) (events : List Event) (event : Event) :
    run window (events ++ [event]) = (run window events).step window event := by
  rw [run_append]
  rfl

/-! ### A call on its own -/

variable {window : ServiceWindow}

def alone (i serviceNow : Nat) (call : Call) : List Event :=
  [.start call, .read i serviceNow true, .write i serviceNow true]

theorem State.write_of_job {state : State} {i : Nat} {job : Job} {plan : Plan} (serviceNow : Nat)
    (answered : Bool) (h : state.jobs[i]? = some job) (planned : job.plan = some plan) :
    state.write window i serviceNow answered =
      let (answer, store) := plan.write.deliver window serviceNow state.now state.store
      { state with
        store
        jobs := if answered then state.jobs.set i (job.concluded plan answer) else state.jobs
        history := Entry.ofWrite i job.call state.now plan.write store answer ++ state.history } := by
  simp only [State.write, h, planned]

theorem verify_run (call : Call) (serviceNow now : Nat) (store : LeaseStore) :
    (call.verifier.verify (StatusService.inMemory window serviceNow now).client call.header call.method
        call.transport).run store =
      match Verifier.opening call.header with
      | .error failure => (.error failure, store)
      | .ok request =>
        let (answer, found) := request.deliver window serviceNow now store
        match call.verifier.decision call.header call.method call.transport answer with
        | .error failure => (.error failure, found)
        | .ok plan =>
          let (ack, after) := plan.write.deliver window serviceNow now found
          (plan.conclude ack, after) := by
  unfold Verifier.verify
  cases Verifier.opening call.header with
  | error failure => rfl
  | ok request =>
    simp only [bind_run, ReadRequest.deliver]
    cases call.verifier.decision call.header call.method call.transport
      (((StatusService.inMemory window serviceNow now).client.call (.read request)).run store).1 <;> rfl

/-- A call whose messages nothing comes between is a verification: the store is left as it leaves it, and
the front end is told what it answers. -/
theorem foldl_alone (state : State) (call : Call) (serviceNow : Nat)
    {verdict : Except VerifyError AcceptedTransition} {after : LeaseStore}
    (verified : (call.verifier.verify (StatusService.inMemory window serviceNow state.now).client
      call.header call.method call.transport).run state.store = (verdict, after)) :
    ∃ plan history, (alone state.jobs.length serviceNow call).foldl (State.step window) state =
      { now := state.now, store := after, jobs := state.jobs ++ [⟨call, plan, some verdict⟩]
        history := history } := by
  have last : ∀ job, (state.jobs ++ [job])[state.jobs.length]? = some job := by
    intro job
    simp
  have replaced : ∀ job other, (state.jobs ++ [job]).set state.jobs.length other =
      state.jobs ++ [other] := by
    intro job other
    simp
  rw [verify_run] at verified
  simp only [alone, List.foldl_cons, List.foldl_nil, State.step, Job.opened]
  cases hopening : Verifier.opening call.header with
  | error failure =>
    simp only [hopening] at verified
    cases verified
    simp only [State.read, State.write, last]
    exact ⟨none, _, rfl⟩
  | ok request =>
    simp only [hopening] at verified
    simp only [State.read, last, hopening, if_true, replaced, Job.judged]
    cases hdecision : call.verifier.decision call.header call.method call.transport
        (request.deliver window serviceNow state.now state.store).1 with
    | error failure =>
      simp only [hdecision] at verified
      cases verified
      simp only [State.write, last]
      exact ⟨none, _, rfl⟩
    | ok plan =>
      simp only [hdecision] at verified
      cases verified
      simp only [State.write, last, if_true, replaced, Job.concluded]
      exact ⟨some plan, _, rfl⟩

/-! ### A session by phone -/

def sampleCall (kind : WorkflowKind) (table : WorkflowTable) (method : Method)
    (built : WorkflowTable.ofKind kind .delete = .ok table) : Call where
  kind := kind
  completion := .delete
  verifier := { table, ttls := .standard }
  built := built
  header := .forSession ⟨"A1", by decide, by decide, by decide⟩
  method := method
  transport := .ticket

def phoneCall (method : Method) : Call :=
  sampleCall (.mobileIdFlow .mobileId) (.mobileFlow .mobileId) method rfl

def choicesCall : Call := sampleCall .choiceSelection .choiceSelection .voterChoices rfl

def voteCall : Call := sampleCall .voteCasting (.voteCasting .delete) .vote rfl

def phoneSession : List Event :=
  alone 0 0 (phoneCall .authenticate) ++ alone 1 0 (phoneCall .authenticateStatus) ++
    alone 2 0 choicesCall ++ alone 3 0 (phoneCall .getCertificate) ++
    alone 4 0 (phoneCall .getCertificateStatus) ++ alone 5 0 (phoneCall .sign) ++
    alone 6 0 (phoneCall .signStatus) ++ alone 7 0 voteCall

end VoterSession.Concurrent
