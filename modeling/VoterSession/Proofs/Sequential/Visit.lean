import VoterSession.Proofs.Concurrent.Lifetime
set_option autoImplicit false

/-!
Calls one after another. A call that nothing comes between its two messages is one verification, and what
it does is decided by the record that its session has when it comes. Main statement: `answer_cases`.
-/
namespace VoterSession.Sequential

/-- A call that comes so many milliseconds after the one before. -/
structure Visit where
  gap : Nat
  serviceNow : Nat
  call : Call

structure Visited where
  call : Call
  time : Nat
  /-- Whether the session had a record when the call came. -/
  recorded : Bool
  result : Except VerifyError AcceptedTransition

structure State where
  now : Nat := 0
  store : LeaseStore := .empty
  trace : List Visited := []

def answer (window : ServiceWindow) (serviceNow now : Nat) (call : Call) (store : LeaseStore) :
    Except VerifyError AcceptedTransition × LeaseStore :=
  (call.verifier.verify (StatusService.inMemory window serviceNow now).client call.header call.method
    call.transport).run store

def State.answered (state : State) (visit : Visit) (result : Except VerifyError AcceptedTransition)
    (store : LeaseStore) : State where
  now := state.now + visit.gap
  store := store
  trace := ⟨visit.call, state.now + visit.gap,
    (state.store.seen (state.now + visit.gap) visit.call.key).isSome, result⟩ :: state.trace

def State.visit (window : ServiceWindow) (state : State) (visit : Visit) : State :=
  let (result, store) := answer window visit.serviceNow (state.now + visit.gap) visit.call state.store
  state.answered visit result store

def run (window : ServiceWindow) (visits : List Visit) : State := visits.foldl (State.visit window) {}

theorem run_append (window : ServiceWindow) (visits more : List Visit) :
    run window (visits ++ more) = more.foldl (State.visit window) (run window visits) :=
  List.foldl_append ..

theorem run_concat (window : ServiceWindow) (visits : List Visit) (visit : Visit) :
    run window (visits ++ [visit]) = (run window visits).visit window visit := by
  rw [run_append]
  rfl

/-- Calls one after another are a run of messages in which nothing comes between those of one call. -/
theorem run_interleaved (window : ServiceWindow) (visits : List Visit) : ∃ events,
    (Concurrent.run window events).now = (run window visits).now ∧
      (Concurrent.run window events).store = (run window visits).store ∧
      ∀ call, .start call ∈ events → ∃ visit ∈ visits, visit.call = call := by
  induction visits using List.reverseRecOn with
  | nil => exact ⟨[], rfl, rfl, by simp⟩
  | append_singleton visits visit ih =>
    obtain ⟨events, now, store, started⟩ := ih
    obtain ⟨verdict, after, answered⟩ : ∃ verdict after, answer window visit.serviceNow
        ((Concurrent.run window events).now + visit.gap) visit.call (Concurrent.run window events).store =
          (verdict, after) := ⟨_, _, rfl⟩
    obtain ⟨plan, history, whole⟩ := Concurrent.foldl_alone
      ((Concurrent.run window events).step window (.wait visit.gap)) visit.call visit.serviceNow answered
    refine ⟨events ++ [.wait visit.gap] ++ Concurrent.alone (Concurrent.run window events).jobs.length
      visit.serviceNow visit.call, ?_⟩
    have same : ((Concurrent.run window events).step window (.wait visit.gap)).jobs.length =
        (Concurrent.run window events).jobs.length := rfl
    rw [same] at whole
    rw [Concurrent.run_append, Concurrent.run_concat, run_concat, whole]
    rw [now, store] at answered
    refine ⟨?_, ?_, ?_⟩
    · simp only [Concurrent.State.step, State.visit, State.answered, now]
    · simp only [State.visit, State.answered, answered]
    · intro call member
      simp only [Concurrent.alone, List.mem_append, List.mem_cons, List.not_mem_nil, or_false, reduceCtorEq,
        Concurrent.Event.start.injEq] at member
      obtain earlier | rfl := member
      · obtain ⟨old, inside, same⟩ := started call earlier
        exact ⟨old, List.mem_append_left _ inside, same⟩
      · exact ⟨visit, List.mem_append_right _ (List.mem_singleton_self _), rfl⟩

/-! ### What calls can rely on -/

/-- The records of the sessions are readable, each on a lease of its own that was granted for the lifetime
of its stage. -/
structure Tidy (ttls : StageTtls) (now : Nat) (store : LeaseStore) : Prop where
  sound : store.Sound
  unshared : ∀ {key key' : String} {holding holding' : Holding}, store.seen now key = some holding →
    store.seen now key' = some holding' → holding.lease = holding'.lease → key = key'
  records : ∀ {id : SessionId} {holding : Holding}, store.seen now (Sessions.key id) = some holding →
    ∃ caller tag, holding.value = RecordText.encode (some caller) tag ∧
      holding.ttl = (ttls.ttl caller.stage).millis

theorem Tidy.later {ttls : StageTtls} {now later : Nat} {store : LeaseStore} (tidy : Tidy ttls now store)
    (time : now ≤ later) : Tidy ttls later store := by
  have earlier : ∀ {key : String} {holding : Holding}, store.seen later key = some holding →
      store.seen now key = some holding := fun h => (tidy.sound.seen_mono time h).1
  exact ⟨tidy.sound, fun h h' => tidy.unshared (earlier h) (earlier h'), fun h => tidy.records (earlier h)⟩

theorem tidy_run {window : ServiceWindow} {ttls : StageTtls} {visits : List Visit}
    (shared : ∀ visit ∈ visits, visit.call.verifier.ttls = ttls) :
    Tidy ttls (run window visits).now (run window visits).store := by
  obtain ⟨events, now, store, started⟩ := run_interleaved window visits
  obtain ⟨sound, ledger⟩ := Concurrent.ledger_run window events
  have clocked : Concurrent.Clocked ttls (Concurrent.run window events) := by
    apply Concurrent.clocked_run
    intro call member
    obtain ⟨visit, inside, rfl⟩ := started call member
    exact shared visit inside
  rw [← now, ← store]
  refine ⟨sound, fun h h' => ledger.unshared h h', ?_⟩
  intro id holding h
  obtain ⟨landing, stands, _, value, _⟩ := ledger.granted h
  rw [clocked id] at h
  obtain ⟨landing', stands', _, lifetime⟩ := Concurrent.surviving_eq_some h
  rw [stands] at stands'
  cases stands'
  exact ⟨_, _, value, lifetime⟩

/-! ### One verification -/

inductive Reads (now : Nat) (store : LeaseStore) (id : SessionId) : SessionRecord → Prop
  | absent (shown : store.seen now (Sessions.key id) = none) : Reads now store id .empty
  | present {holding : Holding} {caller : Method} {tag : AuthTag}
      (shown : store.seen now (Sessions.key id) = some holding)
      (written : holding.value = RecordText.encode (some caller) tag) :
      Reads now store id ⟨some caller, tag, holding.lease⟩

structure Advanced (now : Nat) (call : Call) (tag : AuthTag) (store after : LeaseStore) : Prop where
  sound : after.Sound
  own : ∃ lease, after.seen now call.key = some ⟨RecordText.encode (some call.method) tag, lease,
    call.lifetime.millis, now + call.lifetime.millis⟩
  others : ∀ key, key ≠ call.key → after.seen now key = store.seen now key

def Effect (now : Nat) (call : Call) (plan : Plan) (store after : LeaseStore) : Prop :=
  match plan.accepted.outcome with
  | .updated _ => Advanced now call plan.accepted.auth store after
  | .deleted => LeaseStore.Removed now call.session store after

variable {ttls : StageTtls} {window : ServiceWindow} {serviceNow now : Nat} {call : Call}
  {store after : LeaseStore} {record : SessionRecord} {plan : Plan}

theorem Tidy.reads (tidy : Tidy ttls now store) (id : SessionId) :
    ∃ record, Reads now store id record := by
  cases shown : store.seen now (Sessions.key id) with
  | none => exact ⟨.empty, .absent shown⟩
  | some holding =>
    obtain ⟨caller, tag, written, _⟩ := tidy.records shown
    exact ⟨_, .present shown written⟩

theorem answer_closed (now : Nat) (call : Call) (store : LeaseStore)
    (closed : window.contains serviceNow = false) : ∃ failure,
      answer window serviceNow now call store = (.error failure, store) := by
  rw [answer, Concurrent.verify_run]
  cases Verifier.opening call.header with
  | error failure => exact ⟨failure, rfl⟩
  | ok request =>
    simp only [ReadRequest.deliver_closed request closed]
    exact ⟨_, rfl⟩

theorem answer_invalid (window : ServiceWindow) (serviceNow now : Nat) (store : LeaseStore)
    {violation : Violation} (invalid : call.header.validate = .error violation) : ∃ failure,
      answer window serviceNow now call store = (.error failure, store) := by
  rw [answer, Concurrent.verify_run]
  cases hopening : Verifier.opening call.header with
  | error failure => exact ⟨failure, rfl⟩
  | ok request =>
    rw [(Verifier.opening_eq_ok_iff.1 hopening).1] at invalid
    cases invalid

theorem answer_open (sound : store.Sound) (reads : Reads now store call.session record)
    (opened : window.contains serviceNow = true) (valid : call.header.validate = .ok ()) :
    answer window serviceNow now call store =
      match call.judge record with
      | .error failure => (.error failure, store.purge now)
      | .ok plan =>
        let (ack, after) := plan.write.deliver window serviceNow now (store.purge now)
        (plan.conclude ack, after) := by
  have delivered : ({ header := call.header } : ReadRequest).deliver window serviceNow now store =
      (.ok { header := call.header, record }, store.purge now) := by
    cases reads with
    | absent shown => exact ReadRequest.deliver_empty sound valid opened shown
    | present shown written => exact ReadRequest.deliver_record sound valid opened shown written
  rw [answer, Concurrent.verify_run, Verifier.opening_eq_ok_iff.2 ⟨valid, rfl⟩]
  simp only [delivered]
  rfl

theorem Tidy.advanced (tidy : Tidy ttls now store) {tag : AuthTag} {asked held : LeaseId} {ttl : Nat}
    (lifetime : ttl = call.lifetime.millis)
    (apart : ∀ key holding, store.seen now key = some holding → holding.lease = held → key = call.key)
    (written : LeaseStore.Written now (call.request tag asked) held ttl (store.purge now) after) :
    Advanced now call tag store after := by
  have header : Sessions.key (call.request tag asked).header.sessionId = call.key := rfl
  refine ⟨written.sound, ⟨held, ?_⟩, ?_⟩
  · have own := written.seen call.key
    rw [header, if_pos rfl, lifetime] at own
    exact own
  · intro key other
    have same := written.seen key
    rw [header, if_neg other, tidy.sound.seen_now_purge] at same
    rw [same]
    cases shown : store.seen now key with
    | none => rfl
    | some holding =>
      have different : holding.lease ≠ held := fun same => other (apart key holding shown same)
      rw [Option.map_some, Holding.renewed_of_ne now different]

theorem Tidy.deliver_fresh (tidy : Tidy ttls now store) {tag : AuthTag}
    (opened : window.contains serviceNow = true)
    (valid : (call.request tag .none).validate = .ok ()) :
    ∃ after, (call.updating tag .none).write.deliver window serviceNow now (store.purge now) =
      (.ok .done, after) ∧ Advanced now call tag store after := by
  obtain ⟨after, delivered, written⟩ :=
    SessionWrite.deliver_fresh (tidy.sound.purge now) now opened valid rfl
  refine ⟨after, delivered, tidy.advanced rfl ?_ written⟩
  intro key holding shown same
  have numbered := (tidy.sound.seen_numbered shown).2
  rw [same] at numbered
  have last : (store.purge now).lastLease = store.lastLease := rfl
  simp only [last] at numbered
  omega

theorem Tidy.deliver_reused (tidy : Tidy ttls now store) {holding : Holding} {tag : AuthTag}
    (shown : store.seen now call.key = some holding) (lifetime : holding.ttl = call.lifetime.millis)
    (opened : window.contains serviceNow = true)
    (valid : (call.request tag holding.lease).validate = .ok ()) :
    ∃ after, (call.updating tag holding.lease).write.deliver window serviceNow now (store.purge now) =
      (.ok .done, after) ∧ Advanced now call tag store after := by
  have alive := shown
  rw [← tidy.sound.seen_now_purge] at alive
  obtain ⟨after, delivered, written⟩ :=
    SessionWrite.deliver_alive (tidy.sound.purge now) opened valid alive rfl
  refine ⟨after, delivered, tidy.advanced lifetime ?_ written⟩
  intro key other shown' same
  exact tidy.unshared shown' shown same

theorem answer_accepted (tidy : Tidy ttls now store) (shared : call.verifier.ttls = ttls)
    (reads : Reads now store call.session record) (opened : window.contains serviceNow = true)
    (decided : call.judge record = .ok plan) : ∃ after,
      answer window serviceNow now call store = (.ok plan.accepted, after) ∧
        Effect now call plan store after := by
  have landed : ∀ {plan : Plan}, call.header.validate = .ok () → call.judge record = .ok plan →
      (∃ after, plan.write.deliver window serviceNow now (store.purge now) = (.ok .done, after) ∧
        Effect now call plan store after) →
      ∃ after, answer window serviceNow now call store = (.ok plan.accepted, after) ∧
        Effect now call plan store after := by
    rintro plan valid decided ⟨after, delivered, effect⟩
    refine ⟨after, ?_, effect⟩
    rw [answer_open tidy.sound reads opened valid, decided]
    simp only [delivered, Plan.conclude, Ack.done, if_true]
  cases reads with
  | absent shown =>
    obtain ⟨valid, tag, resolved, _, _, rfl⟩ := Call.judge_empty decided
    exact landed valid decided
      (tidy.deliver_fresh opened (Call.request_valid valid resolved (Int.le_refl 0)))
  | @present holding caller tag shown written =>
    obtain ⟨valid, ⟨resolved, _⟩, shape⟩ := Call.judge_record decided
    obtain ⟨asked, rfl | ⟨rfl, stage⟩, counted, _, rfl⟩ | ⟨_, _, rfl⟩ := shape
    · exact landed valid decided
        (tidy.deliver_fresh opened (Call.request_valid valid resolved (Int.le_refl 0)))
    · obtain ⟨caller', tag', written', lifetime⟩ := tidy.records shown
      obtain ⟨same, _⟩ := RecordText.encode_injective (written.symm.trans written')
      cases same
      have own : holding.ttl = call.lifetime.millis := by
        rw [lifetime, stage, Call.lifetime, shared]
      exact landed valid decided
        (tidy.deliver_reused shown own opened (Call.request_valid valid resolved counted))
    · obtain ⟨after, delivered, removed⟩ : ∃ after,
          (call.deleting tag holding.lease).write.deliver window serviceNow now (store.purge now) =
            (.ok .done, after) ∧ LeaseStore.Removed now call.session (store.purge now) after :=
        SessionWrite.deliver_delete (tidy.sound.purge now) opened (DeleteRequest.validate_of_header valid)
      refine landed valid decided ⟨after, delivered, removed.sound, removed.counted, ?_⟩
      intro key
      rw [removed.seen, tidy.sound.seen_now_purge]

/-- All that one verification can do: refuse and change nothing, or accept and take effect. -/
theorem answer_cases (window : ServiceWindow) (serviceNow : Nat) (tidy : Tidy ttls now store)
    (shared : call.verifier.ttls = ttls) :
    (∃ failure after, answer window serviceNow now call store = (.error failure, after) ∧
      LeaseStore.Unmoved now store after) ∨
    ∃ record plan after, Reads now store call.session record ∧ call.judge record = .ok plan ∧
      answer window serviceNow now call store = (.ok plan.accepted, after) ∧
      Effect now call plan store after := by
  cases opened : window.contains serviceNow with
  | false =>
    obtain ⟨failure, answered⟩ := answer_closed now call store opened
    exact .inl ⟨failure, store, answered, tidy.sound.unmoved now⟩
  | true =>
    cases valid : call.header.validate with
    | error violation =>
      obtain ⟨failure, answered⟩ := answer_invalid window serviceNow now store valid
      exact .inl ⟨failure, store, answered, tidy.sound.unmoved now⟩
    | ok _ =>
      obtain ⟨record, reads⟩ := tidy.reads call.session
      cases decided : call.judge record with
      | error failure =>
        refine .inl ⟨failure, store.purge now, ?_, tidy.sound.unmoved_purge now⟩
        rw [answer_open tidy.sound reads opened valid, decided]
      | ok plan =>
        obtain ⟨after, answered, effect⟩ := answer_accepted tidy shared reads opened decided
        exact .inr ⟨record, plan, after, reads, decided, answered, effect⟩

theorem Effect.others (effect : Effect now call plan store after) {key : String} (other : key ≠ call.key) :
    after.seen now key = store.seen now key := by
  unfold Effect at effect
  cases houtcome : plan.accepted.outcome with
  | updated ttl =>
    rw [houtcome] at effect
    exact effect.others key other
  | deleted =>
    rw [houtcome] at effect
    exact (effect.seen key).trans (if_neg other)

theorem State.visit_eq {state : State} {visit : Visit} {result : Except VerifyError AcceptedTransition}
    (h : answer window visit.serviceNow (state.now + visit.gap) visit.call state.store =
      (result, after)) : state.visit window visit = state.answered visit result after := by
  simp only [State.visit, h]

theorem visit_others {state : State} {visit : Visit} (tidy : Tidy ttls state.now state.store)
    (shared : visit.call.verifier.ttls = ttls) {key : String} (other : key ≠ visit.call.key) :
    (state.visit window visit).store.seen (state.now + visit.gap) key =
      state.store.seen (state.now + visit.gap) key := by
  obtain ⟨failure, after, answered, unmoved⟩ | ⟨_, plan, after, _, _, answered, effect⟩ :=
    answer_cases window visit.serviceNow (tidy.later (Nat.le_add_right _ visit.gap)) shared
  · rw [State.visit_eq answered]
    exact unmoved.seen key
  · rw [State.visit_eq answered]
    exact effect.others other

end VoterSession.Sequential
