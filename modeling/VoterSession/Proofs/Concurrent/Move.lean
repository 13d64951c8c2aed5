import VoterSession.Proofs.Concurrent.System
set_option autoImplicit false

/-!
All that one step can do. `Move` has one case for each kind of message; what holds of every run is proved
from these cases and never opens a step again.
-/
namespace VoterSession.Concurrent

def State.Planned (state : State) (i : Nat) (call : Call) (plan : Plan) : Prop :=
  ∃ job, state.jobs[i]? = some job ∧ job.call = call ∧ job.plan = some plan

def State.Told (state : State) (i : Nat) (call : Call) (accepted : AcceptedTransition) : Prop :=
  ∃ job, state.jobs[i]? = some job ∧ job.call = call ∧ job.result = some (.ok accepted)

/-- What a step can do to the time, the store, the history, the plans and the answers. -/
inductive Move (state after : State) : Prop
  | quiet (history : after.history = state.history) (time : state.now ≤ after.now)
      (store : LeaseStore.Unmoved after.now state.store after.store)
      (plans : ∀ j other plan, after.Planned j other plan → state.Planned j other plan)
      (told : ∀ j other accepted, after.Told j other accepted → state.Told j other accepted)
  | read (i : Nat) (call : Call) (record : SessionRecord)
      (history : after.history = ⟨i, call, state.now, .read record⟩ :: state.history)
      (time : after.now = state.now)
      (store : LeaseStore.Unmoved state.now state.store after.store)
      (found : Sessions.record call.key
        ((state.store.seen state.now call.key).map Holding.stored) = .ok record)
      (plans : ∀ j other plan, after.Planned j other plan →
        state.Planned j other plan ∨ j = i ∧ other = call ∧ call.judge record = .ok plan)
      (told : ∀ j other accepted, after.Told j other accepted → state.Told j other accepted)
  | updated (i : Nat) (call : Call) (plan : Plan) (request : UpdateRequest) (held : LeaseId) (ttl : Nat)
      (planned : state.Planned i call plan) (asks : plan.write = .update request)
      (history : after.history = ⟨i, call, state.now, .updated request held⟩ :: state.history)
      (time : after.now = state.now)
      (store : LeaseStore.Written state.now request held ttl state.store after.store)
      (plans : ∀ j other plan, after.Planned j other plan → state.Planned j other plan)
      (told : ∀ j other accepted, after.Told j other accepted →
        state.Told j other accepted ∨ j = i ∧ other = call ∧ accepted = plan.accepted)
  | deleted (i : Nat) (call : Call) (plan : Plan) (request : DeleteRequest)
      (planned : state.Planned i call plan) (asks : plan.write = .delete request)
      (history : after.history = ⟨i, call, state.now, .deleted⟩ :: state.history)
      (time : after.now = state.now)
      (store : LeaseStore.Removed state.now request.header.sessionId state.store after.store)
      (plans : ∀ j other plan, after.Planned j other plan → state.Planned j other plan)
      (told : ∀ j other accepted, after.Told j other accepted →
        state.Told j other accepted ∨ j = i ∧ other = call ∧ accepted = plan.accepted)

theorem Move.sound {state after : State} (move : Move state after) : after.store.Sound := by
  cases move with
  | quiet _ _ store => exact store.sound
  | read _ _ _ _ _ store => exact store.sound
  | updated _ _ _ _ _ _ _ _ _ _ store => exact store.sound
  | deleted _ _ _ _ _ _ _ _ store => exact store.sound

theorem Move.history_cases {state after : State} (move : Move state after) :
    after.history = state.history ∨ ∃ entry, after.history = entry :: state.history ∧
      entry.time = after.now := by
  cases move with
  | quiet history => exact .inl history
  | read _ _ _ history time => exact .inr ⟨_, history, time.symm⟩
  | updated _ _ _ _ _ _ _ _ history time => exact .inr ⟨_, history, time.symm⟩
  | deleted _ _ _ _ _ _ history time => exact .inr ⟨_, history, time.symm⟩

/-! ### The plans and the answers of the calls -/

variable {state : State} {window : ServiceWindow}

theorem job_of_set {jobs : List Job} {i j : Nat} {job other : Job} {holds : Job → Prop}
    (hjob : jobs[i]? = some job) (kept : holds other → holds job)
    (h : ∃ found, (jobs.set i other)[j]? = some found ∧ holds found) :
    ∃ found, jobs[j]? = some found ∧ holds found := by
  obtain ⟨found, hfound, holding⟩ := h
  by_cases here : i = j
  · subst here
    have inside : i < jobs.length := (List.getElem?_eq_some_iff.1 hjob).1
    rw [List.getElem?_set_self inside] at hfound
    cases hfound
    exact ⟨job, hjob, kept holding⟩
  · rw [List.getElem?_set_ne here] at hfound
    exact ⟨found, hfound, holding⟩

theorem Job.judged_call (job : Job) (answer : Except ClientError ReadResponse) :
    (job.judged answer).call = job.call := by
  unfold judged
  split <;> rfl

theorem Job.judged_plan {job : Job} {answer : Except ClientError ReadResponse} {plan : Plan}
    (h : (job.judged answer).plan = some plan) : job.plan = some plan ∨
      ∃ response, answer = .ok response ∧ job.call.judge response.record = .ok plan := by
  unfold judged at h
  split at h
  · rename_i decided hdecision
    cases h
    cases answer with
    | error source => cases hdecision
    | ok response => exact .inr ⟨response, rfl, hdecision⟩
  · exact .inl h

theorem Job.judged_result {job : Job} {answer : Except ClientError ReadResponse}
    {accepted : AcceptedTransition} (h : (job.judged answer).result = some (.ok accepted)) :
    job.result = some (.ok accepted) := by
  unfold judged at h
  split at h
  · exact h
  · cases h

theorem Job.concluded_call (job : Job) (plan : Plan) (answer : Except ClientError Ack) :
    (job.concluded plan answer).call = job.call := by
  unfold concluded
  split <;> rfl

theorem Job.concluded_plan (job : Job) (plan : Plan) (answer : Except ClientError Ack) :
    (job.concluded plan answer).plan = job.plan := by
  unfold concluded
  split <;> rfl

theorem Job.concluded_result {job : Job} {plan : Plan} {answer : Except ClientError Ack}
    {accepted : AcceptedTransition} (h : (job.concluded plan answer).result = some (.ok accepted)) :
    job.result = some (.ok accepted) ∨
      ∃ ack, answer = .ok ack ∧ accepted = plan.accepted := by
  unfold concluded at h
  split at h
  · cases answer with
    | error source => cases h
    | ok ack =>
      simp only [Plan.conclude] at h
      split at h
      · cases h
        exact .inr ⟨ack, rfl, rfl⟩
      · cases h
  · exact .inl h

theorem Job.failed_call (job : Job) (failure : ClientError) : (job.failed failure).call = job.call := by
  unfold failed
  split <;> rfl

theorem Job.failed_plan (job : Job) (failure : ClientError) : (job.failed failure).plan = job.plan := by
  unfold failed
  split <;> rfl

theorem Job.failed_result {job : Job} {failure : ClientError} {accepted : AcceptedTransition}
    (h : (job.failed failure).result = some (.ok accepted)) : job.result = some (.ok accepted) := by
  unfold failed at h
  split at h
  · cases h
  · cases h
  · exact h

/-! ### One lemma for each event -/

theorem move_rfl (sound : state.store.Sound) : Move state state :=
  .quiet rfl (Nat.le_refl _) (sound.unmoved _) (fun _ _ _ h => h) fun _ _ _ h => h

theorem move_wait (sound : state.store.Sound) (millis : Nat) :
    Move state (state.step window (.wait millis)) :=
  .quiet rfl (Nat.le_add_right _ _) (sound.unmoved _) (fun _ _ _ h => h) fun _ _ _ h => h

theorem Job.opened_plan (call : Call) : (Job.opened call).plan = none := by
  unfold opened
  split <;> rfl

theorem Job.opened_result (call : Call) (accepted : AcceptedTransition) :
    (Job.opened call).result ≠ some (.ok accepted) := by
  unfold opened
  split <;> exact nofun

theorem move_start (sound : state.store.Sound) (call : Call) :
    Move state (state.step window (.start call)) := by
  have started : ∀ (j : Nat) (holds : Job → Prop), ¬ holds (.opened call) →
      (∃ job, (state.jobs ++ [.opened call])[j]? = some job ∧ holds job) →
      ∃ job, state.jobs[j]? = some job ∧ holds job := by
    rintro j holds news ⟨job, hjob, holding⟩
    rw [List.getElem?_append] at hjob
    split at hjob
    · exact ⟨job, hjob, holding⟩
    · have fresh : job = .opened call := by
        have := List.mem_of_getElem? hjob
        simpa using this
      rw [fresh] at holding
      exact absurd holding news
  refine .quiet rfl (Nat.le_refl _) (sound.unmoved _) ?_ ?_
  · intro j other plan
    refine started j _ ?_
    rintro ⟨_, planned⟩
    rw [Job.opened_plan] at planned
    cases planned
  · intro j other accepted
    refine started j _ ?_
    rintro ⟨_, told⟩
    exact Job.opened_result call accepted told

theorem move_fail (sound : state.store.Sound) (i : Nat) (failure : ClientError) :
    Move state (state.step window (.fail i failure)) := by
  simp only [State.step, State.fail]
  cases hjob : state.jobs[i]? with
  | none => exact move_rfl sound
  | some job =>
    refine .quiet rfl (Nat.le_refl _) (sound.unmoved _) ?_ ?_
    · intro j call plan
      refine job_of_set hjob ?_
      rw [Job.failed_call, Job.failed_plan]
      exact id
    · intro j call accepted
      refine job_of_set hjob ?_
      rw [Job.failed_call]
      exact And.imp_right Job.failed_result

section Answers

variable {i j : Nat} {job : Job} {plan : Plan} {other : Call} {asked : Plan} {accepted : AcceptedTransition}

theorem planned_of_judged {answer : Except ClientError ReadResponse} (hjob : state.jobs[i]? = some job)
    (no_plan : job.plan = none)
    (h : ∃ found, (state.jobs.set i (job.judged answer))[j]? = some found ∧ found.call = other ∧
      found.plan = some asked) :
    state.Planned j other asked ∨ j = i ∧ other = job.call ∧
      ∃ response, answer = .ok response ∧ job.call.judge response.record = .ok asked := by
  obtain ⟨found, hfound, hcall, hplan⟩ := h
  by_cases here : i = j
  · subst here
    rw [List.getElem?_set_self (List.getElem?_eq_some_iff.1 hjob).1] at hfound
    cases hfound
    rw [Job.judged_call] at hcall
    obtain early | late := Job.judged_plan hplan
    · rw [no_plan] at early
      cases early
    · exact .inr ⟨rfl, hcall.symm, late⟩
  · rw [List.getElem?_set_ne here] at hfound
    exact .inl ⟨found, hfound, hcall, hplan⟩

theorem told_of_judged {answer : Except ClientError ReadResponse} (hjob : state.jobs[i]? = some job)
    (h : ∃ found, (state.jobs.set i (job.judged answer))[j]? = some found ∧ found.call = other ∧
      found.result = some (.ok accepted)) : state.Told j other accepted := by
  refine job_of_set hjob ?_ h
  rw [Job.judged_call]
  exact And.imp_right Job.judged_result

theorem planned_of_concluded {answered : Bool} {answer : Except ClientError Ack}
    (hjob : state.jobs[i]? = some job)
    (h : ∃ found, (if answered = true then state.jobs.set i (job.concluded plan answer)
      else state.jobs)[j]? = some found ∧ found.call = other ∧ found.plan = some asked) :
    state.Planned j other asked := by
  split at h
  · refine job_of_set hjob ?_ h
    rw [Job.concluded_call, Job.concluded_plan]
    exact id
  · exact h

theorem told_of_concluded {answered : Bool} {answer : Except ClientError Ack}
    (hjob : state.jobs[i]? = some job)
    (h : ∃ found, (if answered = true then state.jobs.set i (job.concluded plan answer)
      else state.jobs)[j]? = some found ∧ found.call = other ∧ found.result = some (.ok accepted)) :
    state.Told j other accepted ∨
      (∃ ack, answer = .ok ack) ∧ j = i ∧ other = job.call ∧ accepted = plan.accepted := by
  obtain ⟨found, hfound, hcall, hresult⟩ := h
  split at hfound
  · by_cases here : i = j
    · subst here
      rw [List.getElem?_set_self (List.getElem?_eq_some_iff.1 hjob).1] at hfound
      cases hfound
      rw [Job.concluded_call] at hcall
      obtain earlier | ⟨ack, hack, news⟩ := Job.concluded_result hresult
      · exact .inl ⟨job, hjob, hcall, earlier⟩
      · exact .inr ⟨⟨ack, hack⟩, rfl, hcall.symm, news⟩
    · rw [List.getElem?_set_ne here] at hfound
      exact .inl ⟨found, hfound, hcall, hresult⟩
  · exact .inl ⟨found, hfound, hcall, hresult⟩

theorem told_of_unacknowledged {answered : Bool} {failure : ClientError}
    (hjob : state.jobs[i]? = some job)
    (h : ∃ found, (if answered = true then state.jobs.set i (job.concluded plan (.error failure))
      else state.jobs)[j]? = some found ∧ found.call = other ∧ found.result = some (.ok accepted)) :
    state.Told j other accepted := by
  obtain earlier | ⟨⟨_, news⟩, _⟩ := told_of_concluded hjob h
  · exact earlier
  · cases news

end Answers

theorem move_refused {i : Nat} {job : Job} (hjob : state.jobs[i]? = some job) (no_plan : job.plan = none)
    (answered : Bool) (failure : ClientError) {store : LeaseStore}
    (unmoved : LeaseStore.Unmoved state.now state.store store) :
    Move state (if answered = true then
      { state with
        store
        jobs := state.jobs.set i (job.judged (.error failure))
        history := Entry.ofRead i job.call state.now (.error failure) ++ state.history }
      else { state with store }) := by
  split
  · refine .quiet rfl (Nat.le_refl _) unmoved ?_ fun _ _ _ => told_of_judged hjob
    intro j other plan h
    obtain earlier | ⟨_, _, _, news, _⟩ := planned_of_judged hjob no_plan h
    · exact earlier
    · cases news
  · exact .quiet rfl (Nat.le_refl _) unmoved (fun _ _ _ h => h) fun _ _ _ h => h

theorem move_read (sound : state.store.Sound) (i serviceNow : Nat) (answered : Bool) :
    Move state (state.step window (.read i serviceNow answered)) := by
  simp only [State.step, State.read]
  cases hjob : state.jobs[i]? with
  | none => exact move_rfl sound
  | some job =>
    simp only
    split
    · rename_i request no_plan _ hopening
      obtain ⟨valid, rfl⟩ := Verifier.opening_eq_ok_iff.1 hopening
      cases opened : window.contains serviceNow with
      | false =>
        rw [ReadRequest.deliver_closed _ opened]
        exact move_refused hjob no_plan answered _ (sound.unmoved _)
      | true =>
        rw [ReadRequest.deliver_open sound valid opened]
        cases found : Sessions.record (Sessions.key job.call.header.sessionId)
            ((state.store.seen state.now (Sessions.key job.call.header.sessionId)).map
              Holding.stored) with
        | error source => exact move_refused hjob no_plan answered _ (sound.unmoved_purge _)
        | ok record =>
          simp only
          split
          · refine .read i job.call record rfl rfl (sound.unmoved_purge _) found ?_
              fun _ _ _ => told_of_judged hjob
            intro j other plan h
            refine (planned_of_judged hjob no_plan h).imp_right ?_
            rintro ⟨same, hcall, response, hresponse, hjudge⟩
            cases hresponse
            exact ⟨same, hcall, hjudge⟩
          · exact .quiet rfl (Nat.le_refl _) (sound.unmoved_purge _) (fun _ _ _ h => h) fun _ _ _ h => h
    · exact move_rfl sound

theorem move_write (sound : state.store.Sound) (i serviceNow : Nat) (answered : Bool) :
    Move state (state.step window (.write i serviceNow answered)) := by
  simp only [State.step, State.write]
  cases hjob : state.jobs[i]? with
  | none => exact move_rfl sound
  | some job =>
    simp only
    cases hplan : job.plan with
    | none => exact move_rfl sound
    | some plan =>
      have planned : state.Planned i job.call plan := ⟨job, hjob, rfl, hplan⟩
      simp only
      cases asks : plan.write with
      | update request =>
        obtain ⟨failure, after, hdeliver, unmoved⟩ | ⟨after, held, ttl, hdeliver, written⟩ :=
          SessionWrite.deliver_update_cases sound window serviceNow state.now request
        · rw [hdeliver]
          exact .quiet rfl (Nat.le_refl _) unmoved (fun _ _ _ => planned_of_concluded hjob)
            fun _ _ _ => told_of_unacknowledged hjob
        · rw [hdeliver]
          refine .updated i job.call plan request held ttl planned asks ?_ rfl written
            (fun _ _ _ => planned_of_concluded hjob)
            fun _ _ _ h => (told_of_concluded hjob h).imp_right And.right
          have attached := written.seen (Sessions.key request.header.sessionId)
          rw [if_pos rfl] at attached
          simp only [Entry.ofWrite, Deed.ofWrite, attached, Option.elim_some, List.singleton_append]
      | delete request =>
        obtain ⟨failure, after, hdeliver, unmoved⟩ | ⟨after, hdeliver, removed⟩ :=
          SessionWrite.deliver_delete_cases sound window serviceNow state.now request
        · rw [hdeliver]
          exact .quiet rfl (Nat.le_refl _) unmoved (fun _ _ _ => planned_of_concluded hjob)
            fun _ _ _ => told_of_unacknowledged hjob
        · rw [hdeliver]
          exact .deleted i job.call plan request planned asks rfl rfl removed
            (fun _ _ _ => planned_of_concluded hjob)
            fun _ _ _ h => (told_of_concluded hjob h).imp_right And.right

/-- A step on a sound store is one of the moves. -/
theorem move_step (sound : state.store.Sound) (window : ServiceWindow) (event : Event) :
    Move state (state.step window event) := by
  cases event with
  | wait millis => exact move_wait sound millis
  | start call => exact move_start sound call
  | read i serviceNow answered => exact move_read sound i serviceNow answered
  | write i serviceNow answered => exact move_write sound i serviceNow answered
  | fail i failure => exact move_fail sound i failure

theorem run_induction {holds : State → Prop} (start : holds {})
    (kept : ∀ state after, state.store.Sound → holds state → Move state after → holds after)
    (events : List Event) : (run window events).store.Sound ∧ holds (run window events) := by
  induction events using List.reverseRecOn with
  | nil => exact ⟨LeaseStore.sound_empty, start⟩
  | append_singleton events event ih =>
    have move := move_step ih.1 window event
    rw [run_concat]
    exact ⟨move.sound, kept _ _ ih.1 ih.2 move⟩

theorem mem_jobs_step {event : Event} {job : Job} (h : job ∈ (state.step window event).jobs) :
    (∃ old ∈ state.jobs, old.call = job.call) ∨ event = .start job.call := by
  have replaced : ∀ {i : Nat} {old other : Job}, state.jobs[i]? = some old → other.call = old.call →
      job ∈ state.jobs.set i other → ∃ old ∈ state.jobs, old.call = job.call := by
    intro i old other hold same member
    obtain member | rfl := List.mem_or_eq_of_mem_set member
    · exact ⟨job, member, rfl⟩
    · exact ⟨old, List.mem_of_getElem? hold, same.symm⟩
  cases event with
  | wait millis => exact .inl ⟨job, h, rfl⟩
  | start call =>
    simp only [State.step, List.mem_append, List.mem_singleton] at h
    obtain member | rfl := h
    · exact .inl ⟨job, member, rfl⟩
    · right
      rw [Job.opened]
      split <;> rfl
  | read i serviceNow answered =>
    left
    simp only [State.step, State.read] at h
    split at h
    · exact ⟨job, h, rfl⟩
    · rename_i old hold
      split at h
      · split at h
        · exact replaced hold (old.judged_call _) h
        · exact ⟨job, h, rfl⟩
      · exact ⟨job, h, rfl⟩
  | write i serviceNow answered =>
    left
    simp only [State.step, State.write] at h
    split at h
    · exact ⟨job, h, rfl⟩
    · rename_i old hold
      split at h
      · exact ⟨job, h, rfl⟩
      · simp only at h
        split at h
        · exact replaced hold (old.concluded_call _ _) h
        · exact ⟨job, h, rfl⟩
  | fail i failure =>
    left
    simp only [State.step, State.fail] at h
    split at h
    · exact ⟨job, h, rfl⟩
    · rename_i old hold
      exact replaced hold (old.failed_call _) h

theorem start_mem_of_job {events : List Event} {job : Job} (h : job ∈ (run window events).jobs) :
    .start job.call ∈ events := by
  induction events using List.reverseRecOn generalizing job with
  | nil => simp [run] at h
  | append_singleton events event ih =>
    rw [run_concat] at h
    obtain ⟨old, earlier, same⟩ | rfl := mem_jobs_step h
    · rw [← same]
      exact List.mem_append_left _ (ih earlier)
    · exact List.mem_append_right _ (List.mem_singleton_self _)

end VoterSession.Concurrent
