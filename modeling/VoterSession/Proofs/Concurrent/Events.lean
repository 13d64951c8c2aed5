import VoterSession.Proofs.Concurrent.Apart
set_option autoImplicit false

/-!
What one event of a run changes: at most one job, whose call stays, the history by entries of that job, and no
record of a session that the event is no message of.
-/
namespace VoterSession.Concurrent

variable {state : State} {window : ServiceWindow} {id : SessionId}

/-! ### Jobs -/

theorem Job.opened_call (call : Call) : (Job.opened call).call = call := by
  unfold opened
  split <;> rfl

theorem jobs_of_step (window : ServiceWindow) (event : Event) :
    (state.step window event).jobs = state.jobs ∨
      (∃ call, event = .start call ∧ (state.step window event).jobs = state.jobs ++ [.opened call]) ∨
      ∃ i job other, event.job? = some i ∧ state.jobs[i]? = some job ∧ other.call = job.call ∧
        (state.step window event).jobs = state.jobs.set i other := by
  cases event with
  | wait millis => exact .inl rfl
  | start call => exact .inr (.inl ⟨call, rfl, rfl⟩)
  | read i serviceNow answered =>
    by_cases waiting : ∃ job, state.jobs[i]? = some job ∧ job.Waits
    · obtain ⟨job, hjob, waits⟩ := waiting
      obtain ⟨_, read⟩ := @State.read_of_waits state window i job hjob waits serviceNow answered
      rw [State.step, read]
      cases answered with
      | false => exact .inl rfl
      | true => exact .inr (.inr ⟨i, job, _, rfl, hjob, job.judged_call _, rfl⟩)
    · rw [State.step, State.read_of_not_waits fun job hjob waits => waiting ⟨job, hjob, waits⟩]
      exact .inl rfl
  | write i serviceNow answered =>
    simp only [State.step, State.write]
    split
    · exact .inl rfl
    · rename_i job hjob
      split
      · exact .inl rfl
      · simp only
        split
        · exact .inr (.inr ⟨i, job, _, rfl, hjob, job.concluded_call _ _, rfl⟩)
        · exact .inl rfl
  | fail i failure =>
    simp only [State.step, State.fail]
    split
    · exact .inl rfl
    · rename_i job hjob
      exact .inr (.inr ⟨i, job, _, rfl, hjob, job.failed_call _, rfl⟩)

theorem job_of_step {event : Event} {j : Nat} {found : Job} (h : (state.step window event).jobs[j]? = some found) :
    state.jobs[j]? = some found ∨ (∃ call, event = .start call ∧ found = .opened call) ∨
      event.job? = some j ∧ ∃ job, state.jobs[j]? = some job ∧ job.call = found.call := by
  obtain same | ⟨call, started, grown⟩ | ⟨i, job, other, about, hjob, same, changed⟩ :=
    @jobs_of_step state window event
  · rw [same] at h
    exact .inl h
  · rw [grown, List.getElem?_append] at h
    split at h
    · exact .inl h
    · exact .inr (.inl ⟨call, started, by simpa using List.mem_of_getElem? h⟩)
  · rw [changed] at h
    by_cases here : i = j
    · subst here
      rw [List.getElem?_set_self (List.getElem?_eq_some_iff.1 hjob).1] at h
      cases h
      exact .inr (.inr ⟨about, job, hjob, same.symm⟩)
    · rw [List.getElem?_set_ne here] at h
      exact .inl h

theorem job_stays {event : Event} {j : Nat} {job : Job} (hjob : state.jobs[j]? = some job)
    (other : event.job? ≠ some j) : (state.step window event).jobs[j]? = some job := by
  obtain same | ⟨call, _, grown⟩ | ⟨i, _, _, about, _, _, changed⟩ := @jobs_of_step state window event
  · rw [same]
    exact hjob
  · rw [grown, List.getElem?_append_left (List.getElem?_eq_some_iff.1 hjob).1]
    exact hjob
  · rw [changed, List.getElem?_set_ne]
    · exact hjob
    · rintro rfl
      exact other about

theorem Job.judged_of_judge (job : Job) (record : SessionRecord) :
    job.judged (.ok { header := job.call.header, record }) =
      match job.call.judge record with
      | .ok plan => { job with plan := some plan }
      | .error failure => { job with result := some (.error failure) } := rfl

theorem Job.concluded_done {job : Job} {plan : Plan}
    (h : job.result = none ∨ job.result = some (.ok plan.accepted)) :
    (job.concluded plan (.ok .done)).result = some (.ok plan.accepted) := by
  unfold concluded
  obtain waiting | earlier := h
  · rw [waiting]
    rfl
  · rw [earlier]
    exact earlier

theorem State.read_found (sound : state.store.Sound) {i serviceNow : Nat} {job : Job}
    (hjob : state.jobs[i]? = some job) (waits : job.Waits) (opened : window.contains serviceNow = true)
    {record : SessionRecord} (found : Sessions.record (Sessions.key job.call.header.sessionId)
      ((state.store.seen state.now (Sessions.key job.call.header.sessionId)).map Holding.stored) = .ok record) :
    state.read window i serviceNow true =
      { now := state.now
        store := state.store.purge state.now
        jobs := state.jobs.set i (job.judged (.ok { header := job.call.header, record }))
        history := ⟨i, job.call, state.now, .read record⟩ :: state.history } := by
  obtain ⟨no_plan, no_result, valid⟩ := waits
  have opening := Verifier.opening_eq_ok_iff.2 ⟨valid, rfl⟩
  simp only [State.read, hjob, no_plan, no_result, opening, ReadRequest.deliver_open sound valid opened, found]
  rfl

/-! ### The history and the store -/

theorem entries_of_step (window : ServiceWindow) (event : Event) :
    ∃ latest, (state.step window event).history = latest ++ state.history ∧
      ∀ entry ∈ latest, event.job? = some entry.job ∧
        ∃ job, state.jobs[entry.job]? = some job ∧ job.call = entry.call := by
  have none : ∃ latest, state.history = latest ++ state.history ∧ ∀ entry ∈ latest,
      event.job? = some entry.job ∧ ∃ job, state.jobs[entry.job]? = some job ∧ job.call = entry.call :=
    ⟨[], rfl, by simp⟩
  cases event with
  | wait millis => exact none
  | start call => exact none
  | fail i failure =>
    simp only [State.step, State.fail]
    split <;> exact none
  | read i serviceNow answered =>
    simp only [State.step, State.read]
    split
    · exact none
    · rename_i job hjob
      split
      · split
        · refine ⟨_, rfl, ?_⟩
          intro entry member
          unfold Entry.ofRead at member
          split at member
          · rw [List.mem_singleton.1 member]
            exact ⟨rfl, job, hjob, rfl⟩
          · cases member
        · exact none
      · exact none
  | write i serviceNow answered =>
    simp only [State.step, State.write]
    split
    · exact none
    · rename_i job hjob
      split
      · exact none
      · refine ⟨_, rfl, ?_⟩
        intro entry member
        unfold Entry.ofWrite at member
        split at member
        · rw [List.mem_singleton.1 member]
          exact ⟨rfl, job, hjob, rfl⟩
        · cases member

/-- What the messages of other sessions do is not seen under the key of this one. -/
theorem seen_of_step (kept : state.store.Sound ∧ Ledger state) {event : Event}
    (prompt : ∀ millis, event ≠ .wait millis)
    (apart : ∀ i job, event.job? = some i → state.jobs[i]? = some job → job.call.session ≠ id) :
    (state.step window event).now = state.now ∧
      (state.step window event).store.seen state.now (Sessions.key id) =
        state.store.seen state.now (Sessions.key id) := by
  cases event with
  | wait millis => exact absurd rfl (prompt millis)
  | start call => exact ⟨rfl, rfl⟩
  | fail i failure =>
    simp only [State.step, State.fail]
    split <;> exact ⟨rfl, rfl⟩
  | read i serviceNow answered =>
    by_cases waiting : ∃ job, state.jobs[i]? = some job ∧ job.Waits
    · obtain ⟨job, hjob, waits⟩ := waiting
      obtain ⟨_, read⟩ := @State.read_of_waits state window i job hjob waits serviceNow answered
      rw [State.step, read]
      exact ⟨rfl, (read_aside kept waits.2.2 serviceNow).seen _⟩
    · rw [State.step, State.read_of_not_waits fun job hjob waits => waiting ⟨job, hjob, waits⟩]
      exact ⟨rfl, rfl⟩
  | write i serviceNow answered =>
    cases hjob : state.jobs[i]? with
    | none =>
      simp only [State.step, State.write, hjob]
      exact ⟨trivial, trivial⟩
    | some job =>
      cases planned : job.plan with
      | none =>
        simp only [State.step, State.write, hjob, planned]
        exact ⟨trivial, trivial⟩
      | some plan =>
        rw [State.step, State.write_of_job serviceNow answered hjob planned]
        have aside := @write_aside id state window kept i job.call plan ⟨job, hjob, rfl, planned⟩
          (apart i job rfl hjob) serviceNow
        exact ⟨rfl, aside.shown⟩

end VoterSession.Concurrent
