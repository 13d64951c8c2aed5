import VoterSession.Proofs.Concurrent.Twins
set_option autoImplicit false

/-!
Sessions do not interfere. A run and what is left of it without the messages of all other sessions end in
states that the session cannot tell apart. Main statement: `sessions_do_not_interfere`.
-/
namespace VoterSession.Concurrent

def calls (events : List Event) : List Call :=
  events.filterMap fun
    | .start call => some call
    | _ => none

def Event.job? : Event → Option Nat
  | wait _ | start _ => none
  | read job .. | write job .. | fail job _ => some job

/-- Whether the event is no message of another session. That a call starts is no message. -/
def Event.stays (calls : List Call) (id : SessionId) (event : Event) : Bool :=
  event.job?.all fun job => calls[job]?.all fun call => call.session = id

variable {labels : Labels} {id : SessionId} {window : ServiceWindow}

theorem calls_append (events more : List Event) : calls (events ++ more) = calls events ++ calls more :=
  List.filterMap_append

theorem step_calls (state : State) (event : Event) :
    (state.step window event).jobs.map Job.call = state.jobs.map Job.call ++ calls [event] := by
  cases event with
  | wait millis => exact (List.append_nil _).symm
  | start call =>
    simp only [State.step, List.map_append, List.map_cons, List.map_nil]
    unfold Job.opened
    split <;> rfl
  | read i serviceNow answered =>
    rw [show calls [.read i serviceNow answered] = [] from rfl, List.append_nil]
    by_cases waiting : ∃ job, state.jobs[i]? = some job ∧ job.Waits
    · obtain ⟨job, hjob, waits⟩ := waiting
      obtain ⟨_, read⟩ := @State.read_of_waits state window i job hjob waits serviceNow answered
      rw [State.step, read]
      cases answered with
      | false => rfl
      | true => exact calls_set hjob (job.judged_call _)
    · rw [State.step, State.read_of_not_waits fun job hjob waits => waiting ⟨job, hjob, waits⟩]
  | write i serviceNow answered =>
    rw [show calls [.write i serviceNow answered] = [] from rfl, List.append_nil]
    cases hjob : state.jobs[i]? with
    | none => simp only [State.step, State.write, hjob]
    | some job =>
      cases planned : job.plan with
      | none => simp only [State.step, State.write, hjob, planned]
      | some plan =>
        rw [State.step, State.write_of_job serviceNow answered hjob planned]
        cases answered with
        | false => rfl
        | true => exact calls_set hjob (job.concluded_call _ _)
  | fail i failure =>
    rw [show calls [.fail i failure] = [] from rfl, List.append_nil]
    cases hjob : state.jobs[i]? with
    | none => simp only [State.step, State.fail, hjob]
    | some job =>
      simp only [State.step, State.fail, hjob]
      exact calls_set hjob (job.failed_call failure)

theorem calls_run (window : ServiceWindow) (events : List Event) :
    (run window events).jobs.map Job.call = calls events := by
  induction events using List.reverseRecOn with
  | nil => rfl
  | append_singleton events event ih => rw [run_concat, step_calls, ih, calls_append]

theorem stays_eq {all : List Call} {jobs : List Job} (started : jobs.map Job.call <+: all) {event : Event}
    {i : Nat} {job : Job} (about : event.job? = some i) (hjob : jobs[i]? = some job) :
    event.stays all id = decide (job.call.session = id) := by
  have found : all[i]? = some job.call := by
    obtain ⟨rest, rfl⟩ := started
    have inside := (List.getElem?_eq_some_iff.1 hjob).1
    rw [List.getElem?_append_left (by rwa [List.length_map]), List.getElem?_map, hjob]
    rfl
  rw [Event.stays, about, Option.all_some, found, Option.all_some]

/-- An event of the whole run, carried out in the other run if it stays, leaves twins behind. -/
theorem Twins.step {own whole : State} (twins : Twins labels id own whole)
    (kept : own.store.Sound ∧ Ledger own) (kept' : whole.store.Sound ∧ Ledger whole) {all : List Call}
    (started : whole.jobs.map Job.call <+: all) {event : Event}
    (faultless : ∀ i failure, event ≠ .fail i failure) : ∃ more : Labels, labels ⊆ more ∧
      Twins more id (if event.stays all id then own.step window event else own)
        (whole.step window event) := by
  have apart : ∀ i, event.job? = some i → ¬ event.stays all id = true →
      ∀ job, whole.jobs[i]? = some job → job.call.session ≠ id := by
    intro i about leaves job hjob
    rw [stays_eq started about hjob, decide_eq_true_eq] at leaves
    exact leaves
  have mine : ∀ i, event.job? = some i → event.stays all id = true →
      ∀ job, own.jobs[i]? = some job → job.call.session = id := by
    intro i about stays job hjob
    rw [← twins.jobs.calls] at started
    rw [stays_eq started about hjob, decide_eq_true_eq] at stays
    exact stays
  cases event with
  | wait millis => exact ⟨labels, List.Subset.refl _, twins.wait kept.1 kept'.1 millis⟩
  | start call => exact ⟨labels, List.Subset.refl _, twins.started call⟩
  | fail i failure => exact absurd rfl (faultless i failure)
  | read i serviceNow answered =>
    refine ⟨labels, List.Subset.refl _, ?_⟩
    split
    · rename_i stays
      exact twins.read kept' kept (mine i rfl stays) serviceNow answered
    · rename_i leaves
      exact twins.read_apart kept' (apart i rfl leaves) serviceNow answered
  | write i serviceNow answered =>
    split
    · rename_i stays
      exact twins.write kept' kept (mine i rfl stays) serviceNow answered
    · rename_i leaves
      exact ⟨labels, List.Subset.refl _, twins.write_apart kept' (apart i rfl leaves) serviceNow answered⟩

/-- What is left of a run without the messages of all other sessions. -/
def only (all : List Call) (id : SessionId) (events : List Event) : List Event :=
  events.filter (Event.stays all id)

theorem twins_run (window : ServiceWindow) (id : SessionId) {all : List Call} {events : List Event}
    (started : calls events <+: all) (faultless : ∀ i failure, .fail i failure ∉ events) :
    ∃ labels : Labels, Twins labels id (run window (only all id events)) (run window events) ∧
      ∀ past, past <+: events → ∃ known : Labels, known ⊆ labels ∧
        Twins known id (run window (only all id past)) (run window past) := by
  induction events using List.reverseRecOn with
  | nil =>
    refine ⟨_, Twins.start id, ?_⟩
    intro past inside
    rw [List.prefix_nil.1 inside]
    exact ⟨_, List.Subset.refl _, Twins.start id⟩
  | append_singleton events event ih =>
    rw [calls_append] at started
    have earlier := (List.prefix_append (calls events) (calls [event])).trans started
    obtain ⟨labels, twins, known⟩ :=
      ih earlier fun i failure member => faultless i failure (List.mem_append_left _ member)
    have started : (run window events).jobs.map Job.call <+: all := by
      rw [calls_run]
      exact earlier
    have healthy : ∀ i failure, event ≠ .fail i failure := by
      rintro i failure rfl
      exact faultless i failure (List.mem_append_right _ (List.mem_singleton_self _))
    obtain ⟨more, grown, next⟩ :=
      @Twins.step labels id window _ _ twins (ledger_run _ _) (ledger_run _ _) all started event healthy
    have latest : Twins more id (run window (only all id (events ++ [event])))
        (run window (events ++ [event])) := by
      rw [run_concat, only, List.filter_append, run_append, ← only]
      cases stays : event.stays all id with
      | true =>
        rw [stays, if_pos rfl] at next
        rw [List.filter_cons_of_pos stays]
        exact next
      | false =>
        rw [stays, if_neg Bool.false_ne_true] at next
        rw [List.filter_cons_of_neg (by simp [stays])]
        exact next
    refine ⟨more, latest, ?_⟩
    intro past inside
    obtain rfl | inside := List.prefix_concat_iff.1 inside
    · exact ⟨more, List.Subset.refl _, latest⟩
    · obtain ⟨before, included, found⟩ := known past inside
      exact ⟨before, List.Subset.trans included grown, found⟩

/-- The runs tell the same of the session: its calls have the same outcomes, and its record is the same
and ends at the same time, now and if nothing more comes. -/
structure TellSame (rename : LeaseId → LeaseId) (id : SessionId) (own whole : State) : Prop where
  time : own.now = whole.now
  outcomes : ∀ (i : Nat) (job : Job), whole.jobs[i]? = some job → job.call.session = id →
    ∃ twin, own.jobs[i]? = some twin ∧ twin.call = job.call ∧
      Option.Rel (OutcomeAlike fun lease other => rename lease = other) twin.result job.result
  record : ∀ later, whole.now ≤ later →
    Option.Rel (HoldingAlike fun lease other => rename lease = other)
      (own.store.seen later (Sessions.key id)) (whole.store.seen later (Sessions.key id))

theorem Twins.tell_same {own whole : State} {rename : LeaseId → LeaseId}
    (twins : Twins labels id own whole) (sound : own.store.Sound) (sound' : whole.store.Sound)
    (agrees : ∀ {lease other}, labels.Pair lease other → rename lease = other) :
    TellSame rename id own whole where
  time := twins.time
  outcomes := by
    intro i job hjob mine
    have inside := (List.getElem?_eq_some_iff.1 hjob).1
    rw [← twins.jobs.length_eq] at inside
    obtain ⟨job', hother, same⟩ := twins.jobs.other (List.getElem?_eq_getElem inside)
    rw [hjob] at hother
    cases hother
    have alike := twins.jobs.alike (List.getElem?_eq_getElem inside) hjob (by rw [← same]; exact mine)
    exact ⟨_, List.getElem?_eq_getElem inside, same.symm,
      rel_mono (fun related => related.mono agrees) alike.result⟩
  record := by
    intro later order
    rw [← twins.time] at order
    exact rel_mono (fun related => related.mono agrees) (twins.stores.later sound sound' order).shown

/-- Sessions do not interfere. What the messages of all other sessions do to a run without faults, as seen
from one session, is to number its leases differently: there is one renaming of the leases with which all
its calls end, and its record is at all times, as if no other session had ever sent a message. -/
theorem sessions_do_not_interfere (window : ServiceWindow) (id : SessionId) (events : List Event)
    (faultless : ∀ i failure, .fail i failure ∉ events) :
    ∃ rename : Equiv.Perm LeaseId, rename .none = .none ∧ ∀ past, past <+: events →
      TellSame rename id (run window (only (calls events) id past)) (run window past) := by
  obtain ⟨labels, twins, known⟩ := twins_run window id (List.prefix_refl (calls events)) faultless
  obtain ⟨rename, agrees⟩ := Labels.exists_rename twins.stores.matching.single
  refine ⟨rename, agrees twins.stores.matching.unnamed, ?_⟩
  intro past inside
  obtain ⟨before, included, found⟩ := known past inside
  exact found.tell_same (ledger_run _ _).1 (ledger_run _ _).1 fun h => agrees (included h)

def strangerCall : Call :=
  { phoneCall .authenticate with header := .forSession ⟨"B2", by decide, by decide, by decide⟩ }

/-- The session `B2` takes the first lease; then `A1` gets to its choices, and a poll that was decided on
before is late. -/
def crossedSessions : List Event :=
  alone 0 0 strangerCall ++ alone 1 0 (phoneCall .authenticate) ++ alone 2 0 (phoneCall .authenticateStatus) ++
    [.start (phoneCall .authenticateStatus), .read 3 0 true] ++ alone 4 0 choicesCall ++ [.write 3 0 true]

theorem crossed_sessions_told_apart : (∀ i failure, .fail i failure ∉ crossedSessions) ∧
    ∃ rename : Equiv.Perm LeaseId, rename ⟨2⟩ = ⟨3⟩ ∧ ∀ past, past <+: crossedSessions →
      TellSame rename choicesCall.session
        (run .always (only (calls crossedSessions) choicesCall.session past)) (run .always past) := by
  have faultless : ∀ i failure, .fail i failure ∉ crossedSessions := by
    simp [crossedSessions, alone]
  obtain ⟨rename, _, same⟩ :=
    sessions_do_not_interfere .always choicesCall.session crossedSessions faultless
  refine ⟨faultless, rename, ?_, same⟩
  have shown := (same crossedSessions (List.prefix_refl _)).record _ (Nat.le_refl _)
  have own : ((run .always (only (calls crossedSessions) choicesCall.session crossedSessions)).store.seen
      (run .always crossedSessions).now choicesCall.key).map Holding.lease = some ⟨2⟩ := by
    decide +kernel
  have whole : ((run .always crossedSessions).store.seen
      (run .always crossedSessions).now choicesCall.key).map Holding.lease = some ⟨3⟩ := by
    decide +kernel
  obtain ⟨none, _⟩ | ⟨holding, other, found, found', alike⟩ := rel_cases shown
  · rw [Call.key, none] at own
    cases own
  · rw [Call.key, found] at own
    rw [Call.key, found'] at whole
    have lease := alike.lease
    rw [Option.some.inj own, Option.some.inj whole] at lease
    exact lease

end VoterSession.Concurrent
