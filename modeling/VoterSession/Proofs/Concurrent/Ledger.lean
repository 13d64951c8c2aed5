import VoterSession.Proofs.Concurrent.Chronicle
import VoterSession.Proofs.Concurrent.Move
set_option autoImplicit false

/-!
The invariant of all runs. `Ledger` ties the store to the history: what the store shows under a key is
what the last update on that session left, and a lease belongs to one session, one tag and one stage for
ever. Main statement: `ledger_run`.
-/
namespace VoterSession.Concurrent

structure Ledger (state : State) : Prop where
  chronicle : Chronicle state.history
  plans : ∀ {i : Nat} {call : Call} {plan : Plan}, state.Planned i call plan →
    Grounded state.history i call plan
  told : ∀ {i : Nat} {call : Call} {accepted : AcceptedTransition}, state.Told i call accepted →
    Landed state.history i call accepted
  shown : ∀ {key : String} {holding : Holding}, state.store.seen state.now key = some holding →
    ∃ id landing, key = Sessions.key id ∧ standing? id state.history = some landing ∧
      holding.value = RecordText.encode (some landing.request.caller) landing.request.auth ∧
      holding.lease = landing.held
  numbered : ∀ {held : LeaseId} {id : SessionId} {tag : AuthTag} {stage : Stage},
    Granted state.history held id tag stage → held.number ≤ state.store.lastLease
  single : ∀ {held : LeaseId} {id id' : SessionId} {tag tag' : AuthTag} {stage stage' : Stage},
    Granted state.history held id tag stage → Granted state.history held id' tag' stage' →
      id = id' ∧ tag = tag' ∧ stage = stage'

namespace Ledger

variable {state after : State}

theorem start : Ledger {} where
  chronicle := trivial
  plans := by
    rintro i call plan ⟨job, hjob, _⟩
    cases hjob
  told := by
    rintro i call accepted ⟨job, hjob, _⟩
    cases hjob
  shown := by
    intro key holding h
    rw [LeaseStore.seen_empty] at h
    cases h
  numbered := by
    rintro held id tag stage ⟨entry, member, _⟩
    cases member
  single := by
    rintro held id id' tag tag' stage stage' ⟨entry, member, _⟩
    cases member

theorem granted (ledger : Ledger state) {id : SessionId} {holding : Holding}
    (h : state.store.seen state.now (Sessions.key id) = some holding) : ∃ landing,
      standing? id state.history = some landing ∧ holding.lease = landing.held ∧
        holding.value = RecordText.encode (some landing.request.caller) landing.request.auth ∧
        Granted state.history holding.lease id landing.request.auth landing.request.caller.stage := by
  obtain ⟨id', landing, hkey, stands, value, lease⟩ := ledger.shown h
  obtain rfl := Sessions.key_injective hkey
  refine ⟨landing, stands, lease, value, ?_⟩
  rw [lease]
  exact granted_of_standing? stands

theorem unshared (ledger : Ledger state) {key key' : String} {holding holding' : Holding}
    (h : state.store.seen state.now key = some holding)
    (h' : state.store.seen state.now key' = some holding') (same : holding.lease = holding'.lease) :
    key = key' := by
  obtain ⟨id, landing, rfl, stands, _, lease⟩ := ledger.shown h
  obtain ⟨id', landing', rfl, stands', _, lease'⟩ := ledger.shown h'
  have granted := granted_of_standing? stands
  have granted' := granted_of_standing? stands'
  rw [← lease, same, lease'] at granted
  rw [(ledger.single granted granted').1]

theorem alive_iff (ledger : Ledger state) {lease : LeaseId} {id : SessionId} {tag : AuthTag}
    {stage : Stage} (granted : Granted state.history lease id tag stage) :
    state.store.Alive state.now lease ↔
      ∃ holding, state.store.seen state.now (Sessions.key id) = some holding ∧ holding.lease = lease := by
  constructor
  · rintro ⟨key, holding, h, rfl⟩
    obtain ⟨id', landing, rfl, stands, _, lease⟩ := ledger.shown h
    have granted' := granted_of_standing? stands
    rw [← lease] at granted'
    obtain ⟨rfl, _⟩ := ledger.single granted granted'
    exact ⟨holding, h, rfl⟩
  · rintro ⟨holding, h, rfl⟩
    exact ⟨_, holding, h, rfl⟩

theorem shown_of_unmoved (sound : state.store.Sound) (time : state.now ≤ after.now)
    (unmoved : LeaseStore.Unmoved after.now state.store after.store) {key : String} {holding : Holding}
    (h : after.store.seen after.now key = some holding) :
    state.store.seen state.now key = some holding := by
  rw [unmoved.seen, sound.seen_later time] at h
  exact (Option.filter_eq_some_iff.1 h).1

theorem current (ledger : Ledger state) {id : SessionId} {record : SessionRecord}
    (found : Sessions.record (Sessions.key id)
      ((state.store.seen state.now (Sessions.key id)).map Holding.stored) = .ok record) :
    Current state.history id record := by
  cases hseen : state.store.seen state.now (Sessions.key id) with
  | none =>
    rw [hseen] at found
    cases found
    exact .inl rfl
  | some holding =>
    obtain ⟨landing, stands, lease, value, _⟩ := ledger.granted hseen
    rw [hseen] at found
    simp only [Option.map_some, Sessions.record, Holding.stored, value, RecordText.decode_encode,
      lease] at found
    cases found
    exact .inr ⟨landing, stands, rfl⟩

/-- A move that neither grants a lease nor hides a record keeps the ledger. -/
theorem of_entry (ledger : Ledger state) {entry : Entry} (history : after.history = entry :: state.history)
    (justified : Justified state.history entry)
    (other : ∀ request held, entry.deed ≠ .updated request held)
    (plans : ∀ i call plan, after.Planned i call plan → Grounded after.history i call plan)
    (told : ∀ i call accepted, after.Told i call accepted → Landed after.history i call accepted)
    (counted : after.store.lastLease = state.store.lastLease)
    (shown : ∀ key holding, after.store.seen after.now key = some holding →
      state.store.seen state.now key = some holding ∧
        ∀ id, key = Sessions.key id → standing? id after.history = standing? id state.history) :
    Ledger after where
  chronicle := by
    rw [history]
    exact ⟨justified, ledger.chronicle⟩
  plans := plans _ _ _
  told := told _ _ _
  shown := by
    intro key holding h
    obtain ⟨before, same⟩ := shown key holding h
    obtain ⟨id, landing, hkey, stands, rest⟩ := ledger.shown before
    exact ⟨id, landing, hkey, (same id hkey).trans stands, rest⟩
  numbered := by
    intro held id tag stage h
    rw [history] at h
    rw [counted]
    exact ledger.numbered (h.of_cons_other fun request => other request held)
  single := by
    intro held id id' tag tag' stage stage' h h'
    rw [history] at h h'
    exact ledger.single (h.of_cons_other fun request => other request held)
      (h'.of_cons_other fun request => other request held)

/-! ### An update that landed -/

section Updated

variable {i : Nat} {call : Call} {plan : Plan} {request : UpdateRequest} {held : LeaseId} {ttl : Nat}

theorem held_before (ledger : Ledger state) (planned : state.Planned i call plan)
    (asks : plan.write = .update request)
    (written : LeaseStore.Written state.now request held ttl state.store after.store) {id : SessionId}
    {tag : AuthTag} {stage : Stage} (granted : Granted state.history held id tag stage) :
    id = call.session ∧ tag = request.auth ∧ stage = request.caller.stage := by
  obtain ⟨_, _, _, reuse⟩ := ledger.chronicle.update_asked (ledger.plans planned) asks
  obtain ⟨_, rfl, _⟩ | ⟨named, rfl, _⟩ := written.source
  · have bound := ledger.numbered granted
    simp only at bound
    omega
  · exact ledger.single granted (reuse named)

theorem held_numbered (ledger : Ledger state) (planned : state.Planned i call plan)
    (asks : plan.write = .update request)
    (written : LeaseStore.Written state.now request held ttl state.store after.store) :
    held.number ≤ after.store.lastLease ∧ state.store.lastLease ≤ after.store.lastLease := by
  obtain ⟨_, _, _, reuse⟩ := ledger.chronicle.update_asked (ledger.plans planned) asks
  obtain ⟨_, rfl, _, counted⟩ | ⟨named, rfl, counted, _⟩ := written.source
  · rw [counted]
    exact ⟨Int.le_refl _, by omega⟩
  · rw [counted]
    exact ⟨ledger.numbered (reuse named), Int.le_refl _⟩

theorem shown_updated (ledger : Ledger state)
    (written : LeaseStore.Written state.now request held ttl state.store after.store)
    (header : request.header = call.header) {key : String} {holding : Holding}
    (h : after.store.seen state.now key = some holding) : ∃ id landing, key = Sessions.key id ∧
      standing? id (⟨i, call, state.now, .updated request held⟩ :: state.history) = some landing ∧
      holding.value = RecordText.encode (some landing.request.caller) landing.request.auth ∧
      holding.lease = landing.held := by
  rw [written.seen, header] at h
  by_cases here : key = Sessions.key call.header.sessionId
  · rw [if_pos here] at h
    cases h
    exact ⟨call.session, _, here, standing?_cons_updated rfl rfl, rfl, rfl⟩
  · rw [if_neg here] at h
    obtain ⟨before, hseen, rfl⟩ := Option.map_eq_some_iff.1 h
    obtain ⟨id, landing, hkey, stands, value, lease⟩ := ledger.shown hseen
    have elsewhere : call.session ≠ id := by
      rintro rfl
      exact here hkey
    refine ⟨id, landing, hkey, ?_, ?_, ?_⟩
    · refine (standing?_cons_of_ne ?_).trans stands
      exact elsewhere
    · rw [Holding.renewed_value]
      exact value
    · rw [Holding.renewed_lease]
      exact lease

theorem single_updated (ledger : Ledger state) (planned : state.Planned i call plan)
    (asks : plan.write = .update request)
    (written : LeaseStore.Written state.now request held ttl state.store after.store) {lease : LeaseId}
    {id id' : SessionId} {tag tag' : AuthTag} {stage stage' : Stage}
    (h : Granted (⟨i, call, state.now, .updated request held⟩ :: state.history) lease id tag stage)
    (h' : Granted (⟨i, call, state.now, .updated request held⟩ :: state.history) lease id' tag' stage') :
    id = id' ∧ tag = tag' ∧ stage = stage' := by
  obtain earlier | ⟨_, hdeed, rfl, rfl, rfl⟩ := h.of_cons
  · obtain earlier' | ⟨_, hdeed', rfl, rfl, rfl⟩ := h'.of_cons
    · exact ledger.single earlier earlier'
    · cases hdeed'
      exact ledger.held_before planned asks written earlier
  · cases hdeed
    obtain earlier' | ⟨_, hdeed', rfl, rfl, rfl⟩ := h'.of_cons
    · obtain ⟨rfl, rfl, rfl⟩ := ledger.held_before planned asks written earlier'
      exact ⟨rfl, rfl, rfl⟩
    · cases hdeed'
      exact ⟨rfl, rfl, rfl⟩

theorem of_updated (ledger : Ledger state) (planned : state.Planned i call plan)
    (asks : plan.write = .update request)
    (history : after.history = ⟨i, call, state.now, .updated request held⟩ :: state.history)
    (time : after.now = state.now)
    (written : LeaseStore.Written state.now request held ttl state.store after.store)
    (plans : ∀ j other plan, after.Planned j other plan → state.Planned j other plan)
    (told : ∀ j other accepted, after.Told j other accepted →
      state.Told j other accepted ∨ j = i ∧ other = call ∧ accepted = plan.accepted) :
    Ledger after where
  chronicle := by
    rw [history]
    refine ⟨⟨plan, ledger.plans planned, asks, ?_⟩, ledger.chronicle⟩
    intro named
    obtain ⟨fresh, _⟩ | ⟨_, same, _⟩ := written.source
    · exact absurd fresh named
    · exact same
  plans := by
    intro j other asked h
    rw [history]
    exact (ledger.plans (plans j other asked h)).mono (List.suffix_cons _ _)
  told := by
    intro j other accepted h
    rw [history]
    obtain earlier | ⟨rfl, rfl, rfl⟩ := told j other accepted h
    · exact (ledger.told earlier).mono (List.suffix_cons _ _)
    · refine ⟨plan, state.now, _, _, List.suffix_refl _, ledger.plans planned, ?_, rfl⟩
      rw [asks]
      exact ⟨held, rfl⟩
  shown := by
    intro key holding h
    obtain ⟨_, shape, _⟩ := ledger.chronicle.update_asked (ledger.plans planned) asks
    have header : request.header = call.header := by
      rw [shape]
      rfl
    rw [time] at h
    rw [history]
    exact ledger.shown_updated written header h
  numbered := by
    intro lease id tag stage h
    rw [history] at h
    have ⟨bound, grows⟩ := ledger.held_numbered planned asks written
    obtain earlier | ⟨_, hdeed, _⟩ := h.of_cons
    · exact Int.le_trans (ledger.numbered earlier) grows
    · cases hdeed
      exact bound
  single := by
    intro lease id id' tag tag' stage stage' h h'
    rw [history] at h h'
    exact ledger.single_updated planned asks written h h'

end Updated

/-! ### Every move -/

theorem of_unmoved (ledger : Ledger state) (sound : state.store.Sound)
    (history : after.history = state.history) (time : state.now ≤ after.now)
    (unmoved : LeaseStore.Unmoved after.now state.store after.store)
    (plans : ∀ i call plan, after.Planned i call plan → state.Planned i call plan)
    (told : ∀ i call accepted, after.Told i call accepted → state.Told i call accepted) :
    Ledger after where
  chronicle := by
    rw [history]
    exact ledger.chronicle
  plans := by
    intro i call plan h
    rw [history]
    exact ledger.plans (plans i call plan h)
  told := by
    intro i call accepted h
    rw [history]
    exact ledger.told (told i call accepted h)
  shown := by
    intro key holding h
    rw [history]
    exact ledger.shown (shown_of_unmoved sound time unmoved h)
  numbered := by
    intro held id tag stage h
    rw [history] at h
    rw [unmoved.counted]
    exact ledger.numbered h
  single := by
    intro held id id' tag tag' stage stage' h h'
    rw [history] at h h'
    exact ledger.single h h'

theorem move (sound : state.store.Sound) (ledger : Ledger state) (move : Move state after) :
    Ledger after := by
  cases move with
  | quiet history time store plans told => exact ledger.of_unmoved sound history time store plans told
  | read i call record history time store found plans told =>
    refine ledger.of_entry history (ledger.current found) (fun _ _ h => by cases h) ?_ ?_ store.counted ?_
    · intro j other plan h
      rw [history]
      obtain earlier | ⟨rfl, rfl, decided⟩ := plans j other plan h
      · exact (ledger.plans earlier).mono (List.suffix_cons _ _)
      · exact ⟨state.now, record, state.history, List.suffix_refl _, decided⟩
    · intro j other accepted h
      rw [history]
      exact (ledger.told (told j other accepted h)).mono (List.suffix_cons _ _)
    · intro key holding h
      rw [time, store.seen] at h
      refine ⟨h, ?_⟩
      intro id _
      rw [history]
      exact standing?_cons_read rfl
  | updated i call plan request held ttl planned asks history time store plans told =>
    exact ledger.of_updated planned asks history time store plans told
  | deleted i call plan request planned asks history time store plans told =>
    have grounded := ledger.plans planned
    obtain ⟨shape, _⟩ := ledger.chronicle.delete_asked grounded asks
    refine ledger.of_entry history ⟨plan, request, grounded, asks⟩ (fun _ _ h => by cases h) ?_ ?_
      store.counted ?_
    · intro j other plan h
      rw [history]
      exact (ledger.plans (plans j other plan h)).mono (List.suffix_cons _ _)
    · intro j other accepted h
      rw [history]
      obtain earlier | ⟨rfl, rfl, rfl⟩ := told j other accepted h
      · exact (ledger.told earlier).mono (List.suffix_cons _ _)
      · refine ⟨plan, state.now, _, _, List.suffix_refl _, grounded, ?_, rfl⟩
        rw [asks]
        rfl
    · intro key holding h
      rw [time, store.seen, shape] at h
      by_cases here : key = Sessions.key call.header.sessionId
      · rw [if_pos here] at h
        cases h
      · rw [if_neg here] at h
        refine ⟨h, ?_⟩
        intro id hkey
        have elsewhere : call.session ≠ id := by
          rintro rfl
          exact here hkey
        rw [history]
        exact standing?_cons_of_ne elsewhere

end Ledger

theorem ledger_run (window : ServiceWindow) (events : List Event) :
    (run window events).store.Sound ∧ Ledger (run window events) :=
  run_induction Ledger.start (fun _ _ sound ledger move => ledger.move sound move) events

theorem event_of_entry {window : ServiceWindow} {events : List Event} {entry : Entry} {older : List Entry}
    (within : entry :: older <:+ (run window events).history) : ∃ past event rest,
      events = past ++ event :: rest ∧ (run window (past ++ [event])).history = entry :: older ∧
        entry.time = (run window (past ++ [event])).now := by
  induction events using List.reverseRecOn with
  | nil =>
    have empty := List.suffix_nil.1 within
    cases empty
  | append_singleton events event ih =>
    have earlier : entry :: older <:+ (run window events).history → ∃ past event' rest,
        events ++ [event] = past ++ event' :: rest ∧
          (run window (past ++ [event'])).history = entry :: older ∧
          entry.time = (run window (past ++ [event'])).now := by
      intro inside
      obtain ⟨past, event', rest, hevents, found⟩ := ih inside
      exact ⟨past, event', rest ++ [event], by simp [hevents], found⟩
    have move := move_step (ledger_run window events).1 window event
    rw [← run_concat] at move
    obtain same | ⟨latest, history, time⟩ := move.history_cases
    · rw [same] at within
      exact earlier within
    · rw [history] at within
      obtain here | inside := List.suffix_cons_iff.1 within
      · cases here
        exact ⟨events, event, [], rfl, history, time⟩
      · exact earlier inside

end VoterSession.Concurrent
