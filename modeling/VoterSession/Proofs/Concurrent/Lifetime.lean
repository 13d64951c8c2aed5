import VoterSession.Proofs.Concurrent.Ledger
set_option autoImplicit false

/-!
How long a record lasts. A write on a lease that is reused starts it anew for as long as it was first
granted for, whatever the write asks; all the same every update gives its session the lifetime of its own
stage. Main statement: `every_update_restarts_the_clock`.
-/
namespace VoterSession.Concurrent

/-- What the store must show of a session after this history, where all front ends give the stages these
lifetimes: the record of the last update, until its lifetime is over. -/
def surviving (ttls : StageTtls) (now : Nat) (history : List Entry) (id : SessionId) : Option Holding :=
  (standing? id history).bind fun landing =>
    let ttl := (ttls.ttl landing.request.caller.stage).millis
    if now < landing.time + ttl then
      some ⟨RecordText.encode (some landing.request.caller) landing.request.auth, landing.held, ttl,
        landing.time + ttl⟩
    else none

variable {ttls : StageTtls} {state after : State} {window : ServiceWindow} {id : SessionId}

theorem surviving_congr {history history' : List Entry}
    (same : standing? id history = standing? id history') (now : Nat) :
    surviving ttls now history id = surviving ttls now history' id := by
  rw [surviving, same, ← surviving]

theorem surviving_eq_some {now : Nat} {history : List Entry} {holding : Holding}
    (h : surviving ttls now history id = some holding) : ∃ landing,
      standing? id history = some landing ∧ holding.lease = landing.held ∧
        holding.ttl = (ttls.ttl landing.request.caller.stage).millis := by
  obtain ⟨landing, stands, found⟩ := Option.bind_eq_some_iff.1 h
  simp only at found
  split at found
  · cases found
    exact ⟨landing, stands, rfl, rfl⟩
  · cases found

theorem surviving_later {now later : Nat} (time : now ≤ later) (history : List Entry) :
    surviving ttls later history id =
      (surviving ttls now history id).filter fun holding => later < holding.deadline := by
  unfold surviving
  cases standing? id history with
  | none => rfl
  | some landing =>
    simp only [Option.bind_some]
    by_cases late : later < landing.time + (ttls.ttl landing.request.caller.stage).millis
    · have early : now < landing.time + (ttls.ttl landing.request.caller.stage).millis := by omega
      rw [if_pos late, if_pos early]
      simp [Option.filter, late]
    · rw [if_neg late]
      split <;> simp [Option.filter, late]

def Clocked (ttls : StageTtls) (state : State) : Prop :=
  ∀ id, state.store.seen state.now (Sessions.key id) = surviving ttls state.now state.history id

theorem Clocked.updated (ledger : Ledger state) (clocked : Clocked ttls state)
    {i : Nat} {call : Call} {plan : Plan} {request : UpdateRequest} {held : LeaseId} {ttl : Nat}
    (shared : call.verifier.ttls = ttls) (planned : state.Planned i call plan)
    (asks : plan.write = .update request)
    (written : LeaseStore.Written state.now request held ttl state.store after.store) :
    ttl = (ttls.ttl request.caller.stage).millis := by
  obtain ⟨_, shape, _, granted⟩ := ledger.chronicle.update_asked (ledger.plans planned) asks
  obtain ⟨_, _, rfl, _⟩ | ⟨named, rfl, _, key, holding, shown, same, rfl⟩ := written.source
  · rw [shape]
    simp only [Call.request, Call.lifetime, shared]
  · -- A lease stays in one stage, and the record that it keeps alive has the lifetime of that stage.
    obtain ⟨id, _, rfl, _⟩ := ledger.shown shown
    have survives := shown
    rw [clocked id] at survives
    obtain ⟨landing, stands, lease, lifetime⟩ := surviving_eq_some survives
    have standing := granted_of_standing? stands
    rw [← lease, same] at standing
    obtain ⟨_, _, stage⟩ := ledger.single standing (granted named)
    rw [lifetime, stage]

theorem Clocked.move (sound : state.store.Sound) (ledger : Ledger state) (clocked : Clocked ttls state)
    (shared : ∀ i call plan, state.Planned i call plan → call.verifier.ttls = ttls)
    (move : Move state after) : Clocked ttls after := by
  intro id
  cases move with
  | quiet history time store =>
    rw [store.seen, sound.seen_later time, clocked id, history, surviving_later time]
  | read i call record history time store =>
    rw [time, store.seen, clocked id, history]
    exact surviving_congr (standing?_cons_read rfl).symm state.now
  | deleted i call plan request planned asks history time store =>
    have header : request.header.sessionId = call.session := by
      rw [(ledger.chronicle.delete_asked (ledger.plans planned) asks).1]
      rfl
    rw [time, store.seen, history, header]
    by_cases here : call.session = id
    · have entry : (⟨i, call, state.now, .deleted⟩ : Entry).session = id := here
      rw [if_pos (congrArg Sessions.key here.symm), surviving, standing?_cons_deleted entry rfl]
      rfl
    · have entry : (⟨i, call, state.now, .deleted⟩ : Entry).session ≠ id := here
      rw [if_neg fun same => here (Sessions.key_injective same).symm, clocked id]
      exact surviving_congr (standing?_cons_of_ne entry).symm state.now
  | updated i call plan request held ttl planned asks history time store =>
    obtain ⟨_, shape, _⟩ := ledger.chronicle.update_asked (ledger.plans planned) asks
    have lifetime := clocked.updated ledger (shared i call plan planned) planned asks store
    have header : request.header.sessionId = call.session := by
      rw [shape]
      rfl
    rw [time, store.seen, history, header]
    by_cases here : call.session = id
    · have entry : (⟨i, call, state.now, .updated request held⟩ : Entry).session = id := here
      have positive := (ttls.ttl request.caller.stage).millis_pos
      rw [if_pos (congrArg Sessions.key here.symm), surviving, standing?_cons_updated entry rfl,
        Option.bind_some]
      simp only
      rw [if_pos (by omega), lifetime]
    · have entry : (⟨i, call, state.now, .updated request held⟩ : Entry).session ≠ id := here
      rw [if_neg fun same => here (Sessions.key_injective same).symm,
        surviving_congr (standing?_cons_of_ne entry) state.now, ← clocked id]
      cases shown : state.store.seen state.now (Sessions.key id) with
      | none => rfl
      | some holding =>
        obtain ⟨landing, _, _, _, granted⟩ := ledger.granted shown
        have other : holding.lease ≠ held := by
          rintro rfl
          exact here (ledger.held_before planned asks store granted).1.symm
        rw [Option.map_some, Holding.renewed_of_ne _ other]

theorem clocked_run {events : List Event}
    (shared : ∀ call, Event.start call ∈ events → call.verifier.ttls = ttls) :
    Clocked ttls (run window events) := by
  induction events using List.reverseRecOn with
  | nil =>
    intro id
    exact LeaseStore.seen_empty _ _
  | append_singleton events event ih =>
    have past : ∀ call, Event.start call ∈ events → call.verifier.ttls = ttls := fun call member =>
      shared call (List.mem_append_left _ member)
    obtain ⟨sound, ledger⟩ := ledger_run window events
    rw [run_concat]
    refine (ih past).move sound ledger ?_ (move_step sound window event)
    rintro i call plan ⟨job, hjob, rfl, _⟩
    exact past job.call (start_mem_of_job (List.mem_of_getElem? hjob))

theorem Clocked.timeToLive (clocked : Clocked ttls state) {entry : Entry} {older : List Entry}
    {request : UpdateRequest} {held : LeaseId} (history : state.history = entry :: older)
    (deed : entry.deed = .updated request held) (time : entry.time = state.now) :
    (state.store.timeToLive entry.time held).1 = some (ttls.ttl request.caller.stage).millis := by
  have positive := (ttls.ttl request.caller.stage).millis_pos
  have shown := clocked entry.session
  rw [history, surviving, standing?_cons_updated rfl deed, Option.bind_some] at shown
  simp only at shown
  rw [if_pos (by omega)] at shown
  rw [time]
  refine (LeaseStore.timeToLive_of_seen shown).trans ?_
  simp only [time]
  congr 1
  omega

/-- In every run whose front ends give the stages the same lifetimes: the store shows exactly the records
whose lifetime, counted from the last write on their session, is not over; an update leaves its lease with
the whole lifetime of its stage; and that lifetime is what the front end is told. -/
theorem every_update_restarts_the_clock (window : ServiceWindow) (ttls : StageTtls) (events : List Event)
    (shared : ∀ call, .start call ∈ events → call.verifier.ttls = ttls) :
    (∀ id, (run window events).store.seen (run window events).now (Sessions.key id) =
      surviving ttls (run window events).now (run window events).history id) ∧
    (∀ i call time request held older,
      ⟨i, call, time, .updated request held⟩ :: older <:+ (run window events).history →
      ∃ past event rest, events = past ++ event :: rest ∧
        (run window (past ++ [event])).history = ⟨i, call, time, .updated request held⟩ :: older ∧
        ((run window (past ++ [event])).store.timeToLive time held).1 =
          some (ttls.ttl call.method.stage).millis) ∧
    (∀ i call accepted ttl, (run window events).Told i call accepted → accepted.outcome = .updated ttl →
      ttl = ttls.ttl call.method.stage ∧ ∃ time request held older,
        ⟨i, call, time, .updated request held⟩ :: older <:+ (run window events).history) := by
  obtain ⟨sound, ledger⟩ := ledger_run window events
  refine ⟨clocked_run shared, ?_, ?_⟩
  · intro i call time request held older within
    obtain ⟨plan, _, _, shape⟩ := ledger.chronicle.updated within rfl
    obtain ⟨past, event, rest, hevents, history, moment⟩ := event_of_entry within
    have clocked : Clocked ttls (run window (past ++ [event])) := by
      refine clocked_run ?_
      intro call member
      apply shared
      rw [hevents, List.append_cons]
      exact List.mem_append_left rest member
    have left := clocked.timeToLive history rfl moment
    rw [shape] at left
    exact ⟨past, event, rest, hevents, history, left⟩
  · intro i call accepted ttl told outcome
    obtain ⟨plan, time, deed, older, within, grounded, write, rfl⟩ := ledger.told told
    have earlier := ledger.chronicle.suffix ((List.suffix_cons _ _).trans within)
    have lifetime : call.lifetime = ttls.ttl call.method.stage := by
      obtain ⟨job, hjob, rfl, _⟩ := told
      rw [Call.lifetime, shared job.call (start_mem_of_job (List.mem_of_getElem? hjob))]
    cases asks : plan.write with
    | update request =>
      obtain ⟨_, _, shape, _⟩ := earlier.update_asked grounded asks
      rw [asks] at write
      obtain ⟨held, rfl⟩ := write
      rw [shape] at outcome
      cases outcome
      exact ⟨lifetime, time, request, held, older, within⟩
    | delete request =>
      rw [(earlier.delete_asked grounded asks).2] at outcome
      cases outcome

def latePoll : List Event :=
  alone 0 0 (phoneCall .authenticate) ++ [.wait 200000] ++ alone 1 0 (phoneCall .authenticateStatus)

theorem late_poll_restarts_the_clock :
    (∃ call accepted time request held older past event rest,
      (run .always latePoll).Told 1 call accepted ∧
      accepted.outcome = .updated (StageTtls.standard.ttl .auth) ∧ latePoll = past ++ event :: rest ∧
      (run .always (past ++ [event])).history = ⟨1, call, time, .updated request held⟩ :: older ∧
      ((run .always (past ++ [event])).store.timeToLive time held).1 =
        some (StageTtls.standard.ttl .auth).millis) ∧
    ∀ id, (run .always latePoll).store.seen (run .always latePoll).now (Sessions.key id) =
      surviving .standard (run .always latePoll).now (run .always latePoll).history id := by
  have shared : ∀ call, .start call ∈ latePoll → call.verifier.ttls = .standard := by
    intro call member
    simp only [latePoll, alone, List.cons_append, List.nil_append, List.mem_cons, Event.start.injEq,
      reduceCtorEq, false_or, or_false, List.not_mem_nil] at member
    obtain rfl | rfl := member <;> rfl
  have answer : ((run .always latePoll).jobs[1]?.bind Job.result) = some (.ok ⟨.authenticateStatus,
      .mobileId, ⟨1⟩, .updated (StageTtls.standard.ttl .auth), 0x53530001⟩) := by decide +kernel
  obtain ⟨job, hjob, result⟩ := Option.bind_eq_some_iff.1 answer
  have told : (run .always latePoll).Told 1 job.call _ := ⟨job, hjob, rfl, result⟩
  obtain ⟨clocked, landings, answers⟩ := every_update_restarts_the_clock .always .standard latePoll shared
  obtain ⟨ttl, time, request, held, older, within⟩ := answers 1 job.call _ _ told rfl
  obtain ⟨past, event, rest, hevents, history, left⟩ := landings 1 job.call time request held older within
  rw [← ttl] at left
  exact ⟨⟨job.call, _, time, request, held, older, past, event, rest, told, rfl, hevents, history, left⟩,
    clocked⟩

end VoterSession.Concurrent
