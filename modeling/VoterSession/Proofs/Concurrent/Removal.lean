import VoterSession.Proofs.Concurrent.Fencing
set_option autoImplicit false

/-!
What an accepted vote ends. Its removal fences off every write that names a lease; a write that asks for a
new one is not fenced, and may have been decided on before the removal. Main statements:
`late_writes_revive_a_session` and `vote_fences_off_leases`.
-/
namespace VoterSession

/-! ### Which steps ask for a new lease -/

def Method.movesLease : Method → Bool
  | voterChoices | getCertificate | vote => true
  | _ => false

def TransitionRule.moving (rule : TransitionRule) : Bool :=
  match rule.action with
  | .update _ fresh => fresh == rule.method.movesLease
  | .delete => true

theorem WorkflowTable.rules_moving {kind : WorkflowKind} {completion : VoteCompletion} {table : WorkflowTable}
    (built : ofKind kind completion = .ok table) : ∀ rule ∈ table.rules, rule.moving = true := by
  cases kind with
  | mobileIdFlow tag =>
    simp only [ofKind] at built
    split at built
    · rename_i phone
      cases built
      obtain rfl | rfl := phone <;> decide
    · cases built
  | choiceSelection => cases built; decide
  | webEid => cases built; decide
  | voteCasting => cases built; cases completion <;> decide
  | verification => cases built; decide

/-- On a session with a record an update asks for a new lease, if its method moves the session, and for the
lease of the record otherwise. -/
theorem Call.judge_update {call : Call} {record : SessionRecord} {plan : Plan} {request : UpdateRequest}
    (h : call.judge record = .ok plan) (asks : plan.write = .update request) :
    request.lease = if call.method.movesLease then .none else record.lease := by
  obtain ⟨step, hstep, hplan⟩ := judge_eq_ok h
  obtain ⟨rule, hrule, served, row, _, _, _, rfl⟩ := WorkflowTable.evaluate_eq_ok hstep
  have moving := WorkflowTable.rules_moving call.built rule hrule
  unfold TransitionRule.moving at moving
  obtain ⟨stage, built, updates, writes, hrequest⟩ | ⟨_, _, writes, _⟩ := Verifier.plan_cases hplan <;>
    rw [writes] at asks <;> cases asks
  obtain ⟨_, rfl⟩ := UpdateRequest.ofFields_eq_ok_iff.1 hrequest
  simp only [WorkflowTable.transition] at updates ⊢
  cases haction : rule.action with
  | update stage fresh =>
    rw [haction] at moving
    rw [← served, ← beq_iff_eq.1 moving]
  | delete =>
    rw [haction] at updates
    cases updates

namespace Concurrent

def Quiet (id : SessionId) (entries : List Entry) : Prop :=
  ∀ entry ∈ entries, entry.session = id → ∀ request held, entry.deed ≠ .updated request held

def ReadIn (entries : List Entry) (i : Nat) (call : Call) (record : SessionRecord) : Prop :=
  ∃ time, ⟨i, call, time, .read record⟩ ∈ entries

variable {id : SessionId} {window : ServiceWindow} {events : List Event}

theorem standing?_append_of_quiet {newer older : List Entry} (quiet : Quiet id newer)
    (ended : standing? id older = none) : standing? id (newer ++ older) = none := by
  induction newer with
  | nil => exact ended
  | cons entry rest ih =>
    have before := ih fun entry member => quiet entry (List.mem_cons_of_mem _ member)
    by_cases here : entry.session = id
    · cases hdeed : entry.deed with
      | read record =>
        rw [List.cons_append, standing?_cons_read hdeed]
        exact before
      | updated request held => exact absurd hdeed (quiet entry List.mem_cons_self here request held)
      | deleted => exact standing?_cons_deleted here hdeed
    · rw [List.cons_append, standing?_cons_of_ne here]
      exact before

theorem standing?_removed (vote : Call) (j t : Nat) (older : List Entry) :
    standing? vote.session (⟨j, vote, t, .deleted⟩ :: older) = none :=
  standing?_cons_deleted rfl rfl

theorem update_known (window : ServiceWindow) (events : List Event) :
    ∀ entry ∈ (run window events).history, ∀ request held, entry.deed = .updated request held →
      .start entry.call ∈ events ∧ held ≠ .none := by
  induction events using List.reverseRecOn with
  | nil => simp [run]
  | append_singleton events event ih =>
    have older : ∀ entry ∈ (run window events).history, ∀ request held,
        entry.deed = .updated request held → .start entry.call ∈ events ++ [event] ∧ held ≠ .none := by
      intro entry member request held deed
      obtain ⟨started, named⟩ := ih entry member request held deed
      exact ⟨List.mem_append_left _ started, named⟩
    have later : ∀ {latest : Entry}, (∀ request held, latest.deed = .updated request held →
        .start latest.call ∈ events ++ [event] ∧ held ≠ .none) →
        ∀ entry ∈ latest :: (run window events).history, ∀ request held,
          entry.deed = .updated request held → .start entry.call ∈ events ++ [event] ∧ held ≠ .none := by
      intro latest news entry member
      obtain rfl | member := List.mem_cons.1 member
      · exact news
      · exact older entry member
    rw [run_concat]
    cases move_step (ledger_run window events).1 window event with
    | quiet history =>
      rw [history]
      exact older
    | read i call record history =>
      rw [history]
      exact later fun _ _ deed => by cases deed
    | deleted i call plan request _ _ history =>
      rw [history]
      exact later fun _ _ deed => by cases deed
    | updated i call plan request held ttl planned _ history _ written =>
      rw [history]
      refine later ?_
      rintro _ _ ⟨⟩
      obtain ⟨job, hjob, rfl, _⟩ := planned
      refine ⟨List.mem_append_left _ (start_mem_of_job (List.mem_of_getElem? hjob)), ?_⟩
      rintro rfl
      have shown := written.seen (Sessions.key request.header.sessionId)
      rw [if_pos rfl] at shown
      have numbered := (written.sound.seen_numbered shown).1
      simp only [LeaseId.none] at numbered
      omega

section Ended

variable {newer older : List Entry} {j t : Nat} {vote : Call}
  (ended : (run window events).history = newer ++ ⟨j, vote, t, .deleted⟩ :: older)
include ended

theorem lease_ended {lease : LeaseId} {tag : AuthTag} {stage : Stage}
    (granted : Granted older lease vote.session tag stage) :
    ∀ entry ∈ newer, ∀ request held, entry.deed = .updated request held → held ≠ lease := by
  obtain ⟨past, event, rest, hevents, history, _⟩ := event_of_entry ⟨newer, ended.symm⟩
  obtain ⟨_, ledger⟩ := ledger_run window (past ++ [event])
  have known := granted.mono (List.suffix_cons ⟨j, vote, t, .deleted⟩ older)
  rw [← history] at known
  have lapsed : (run window (past ++ [event])).Lapsed lease := by
    refine ⟨ledger.numbered known, ?_⟩
    rw [ledger.alive_iff known]
    rintro ⟨holding, shown, _⟩
    obtain ⟨landing, stands, _⟩ := ledger.granted shown
    rw [history, standing?_removed] at stands
    cases stands
  obtain ⟨_, latest, grown, elsewhere⟩ := lapsed.run rest
  rw [List.append_assoc, List.singleton_append, ← hevents, ended, history] at grown
  rw [List.append_cancel_right grown]
  exact elsewhere

theorem removal_is_vote : vote.method = .vote := by
  obtain ⟨_, ledger⟩ := ledger_run window events
  have within : ⟨j, vote, t, .deleted⟩ :: older <:+ (run window events).history := ⟨newer, ended.symm⟩
  have justified := ledger.chronicle.justified within
  obtain ⟨plan, request, grounded, asks⟩ := justified
  have earlier := ledger.chronicle.suffix ((List.suffix_cons _ _).trans within)
  obtain ⟨_, record, _, _, decided, empty | ⟨landing, _, left⟩⟩ := earlier.current grounded
  · subst empty
    obtain ⟨_, _, _, _, _, rfl⟩ := Call.judge_empty decided
    cases asks
  · subst left
    obtain ⟨_, _, ⟨_, _, _, _, rfl⟩ | ⟨voted, _, _⟩⟩ := Call.judge_record decided
    · cases asks
    · exact voted

theorem absent_of_quiet (quiet : Quiet vote.session newer) :
    (run window events).store.seen (run window events).now vote.key = none := by
  obtain ⟨_, ledger⟩ := ledger_run window events
  rw [Option.eq_none_iff_forall_ne_some]
  intro holding shown
  obtain ⟨landing, stands, _⟩ := ledger.granted shown
  rw [ended, standing?_append_of_quiet quiet (standing?_removed vote j t older)] at stands
  cases stands

theorem read_place {front back : List Entry} {i time : Nat} {call : Call} {request : UpdateRequest}
    {held : LeaseId} (landed : newer = front ++ ⟨i, call, time, .updated request held⟩ :: back) :
    ∃ plan record, call.judge record = .ok plan ∧ plan.write = .update request ∧
      (request.lease ≠ .none → held = request.lease) ∧
      ((∃ late mid read, back = late ++ ⟨i, call, read, .read record⟩ :: mid ∧
          Current (mid ++ ⟨j, vote, t, .deleted⟩ :: older) call.session record) ∨
        ∃ before read, ⟨i, call, read, .read record⟩ :: before <:+ older ∧
          Current before call.session record) := by
  obtain ⟨_, ledger⟩ := ledger_run window events
  rw [landed, List.append_assoc, List.cons_append] at ended
  have within : ⟨i, call, time, .updated request held⟩ :: (back ++ ⟨j, vote, t, .deleted⟩ :: older) <:+
      (run window events).history := ⟨front, ended.symm⟩
  obtain ⟨plan, grounded, asks, kept⟩ := ledger.chronicle.justified within
  have earlier := ledger.chronicle.suffix ((List.suffix_cons _ _).trans within)
  obtain ⟨read, record, before, ⟨late, place⟩, decided, current⟩ := earlier.current grounded
  refine ⟨plan, record, decided, asks, kept, ?_⟩
  obtain ⟨mid, hback, hbefore⟩ | ⟨mid, _, holder⟩ := List.append_eq_append_iff.1 place
  · cases mid with
    | nil =>
      rw [List.nil_append] at hbefore
      cases hbefore
    | cons first mid =>
      rw [List.cons_append] at hbefore
      cases hbefore
      exact .inl ⟨late, mid, read, hback, current⟩
  · cases mid with
    | nil =>
      rw [List.nil_append] at holder
      cases holder
    | cons first mid =>
      rw [List.cons_append] at holder
      obtain ⟨_, rfl⟩ := List.cons.inj holder
      exact .inr ⟨before, read, List.suffix_append mid _, current⟩

theorem reuse_ended {front back before : List Entry} {i time : Nat} {call : Call} {request : UpdateRequest}
    {held : LeaseId} {landing : Landing}
    (landed : newer = front ++ ⟨i, call, time, .updated request held⟩ :: back)
    (here : call.session = vote.session) (within : before <:+ older)
    (stands : standing? call.session before = some landing) : held ≠ landing.held := by
  have granted := (granted_of_standing? stands).mono within
  rw [here] at granted
  have member : ⟨i, call, time, .updated request held⟩ ∈ newer := by
    rw [landed]
    exact List.mem_append_right _ List.mem_cons_self
  exact lease_ended ended granted _ member request held rfl

theorem named_read_after {front back : List Entry} {i time : Nat} {call : Call} {request : UpdateRequest}
    {held : LeaseId} (landed : newer = front ++ ⟨i, call, time, .updated request held⟩ :: back)
    (here : call.session = vote.session) (named : request.lease ≠ .none) :
    ∃ record, ReadIn back i call record := by
  obtain ⟨plan, record, decided, asks, kept, ⟨late, mid, read, rfl, _⟩ | ⟨before, read, within, current⟩⟩ :=
    read_place ended landed
  · exact ⟨record, read, List.mem_append_right _ List.mem_cons_self⟩
  · have lease := Call.judge_update decided asks
    obtain rfl | ⟨landing, stands, rfl⟩ := current
    · rw [SessionRecord.empty, ite_self] at lease
      exact absurd lease named
    · split at lease
      · exact absurd lease named
      · have other := reuse_ended ended landed here ((List.suffix_cons _ _).trans within) stands
        rw [kept named, lease] at other
        exact absurd rfl other

theorem first_update_after (deleting : ∀ call, .start call ∈ events → call.completion = .delete)
    {front back : List Entry} {i time : Nat} {call : Call} {request : UpdateRequest} {held : LeaseId}
    (landed : newer = front ++ ⟨i, call, time, .updated request held⟩ :: back)
    (here : call.session = vote.session) (quiet : Quiet vote.session back) :
    request.lease = .none ∧
      (call.kind.Opens call.method call.transport request.auth ∧ ReadIn (back ++ older) i call .empty ∨
        (call.method = .voterChoices ∨ call.method = .getCertificate) ∧
          ∃ record, record ≠ .empty ∧ ReadIn older i call record) := by
  obtain ⟨plan, record, decided, asks, kept, place⟩ := read_place ended landed
  have opening : record = .empty → request.lease = .none ∧
      call.kind.Opens call.method call.transport request.auth := by
    rintro rfl
    obtain ⟨_, tag, _, opens, _, rfl⟩ := Call.judge_empty decided
    cases asks
    exact ⟨rfl, opens⟩
  obtain ⟨late, mid, read, rfl, current⟩ | ⟨before, read, within, current⟩ := place
  · -- what was read after the removal is that the session has no record
    have still : Quiet vote.session mid := by
      intro entry member
      exact quiet entry (List.mem_append_right _ (List.mem_cons_of_mem _ member))
    have none := standing?_append_of_quiet still (standing?_removed vote j t older)
    obtain empty | ⟨landing, stands, _⟩ := current
    · subst empty
      obtain ⟨lease, opens⟩ := opening rfl
      exact ⟨lease, .inl ⟨opens, read, List.mem_append_left _ (List.mem_append_right _ List.mem_cons_self)⟩⟩
    · rw [here, none] at stands
      cases stands
  · obtain empty | ⟨landing, stands, left⟩ := current
    · subst empty
      obtain ⟨lease, opens⟩ := opening rfl
      exact ⟨lease, .inl ⟨opens, read, List.mem_append_right _ (within.subset List.mem_cons_self)⟩⟩
    · have known := update_known window events
      rw [ended, landed] at known
      have lease := Call.judge_update decided asks
      have recorded : record ≠ .empty := by
        rw [left]
        exact nofun
      subst left
      cases moves : call.method.movesLease with
      | true =>
        rw [moves, if_pos rfl] at lease
        have started : .start call ∈ events :=
          (known _ (List.mem_append_left _ (List.mem_append_right _ List.mem_cons_self)) _ _ rfl).1
        refine ⟨lease, .inr ⟨?_, _, recorded, read, within.subset List.mem_cons_self⟩⟩
        obtain ⟨_, _, ⟨_, _, _, handed, _⟩ | ⟨_, _, rfl⟩⟩ := Call.judge_record decided
        · cases hmethod : call.method <;> rw [hmethod] at moves handed <;> cases moves
          · exact .inl rfl
          · exact .inr rfl
          · rw [deleting call started] at handed
            exact absurd (handed rfl) (by decide)
        · cases asks
      | false =>
        rw [moves, if_neg Bool.false_ne_true] at lease
        obtain ⟨entry, member, _, _, deed⟩ := mem_of_standing? stands
        have inside : entry ∈ older := within.subset (List.mem_cons_of_mem _ member)
        have named : landing.held ≠ .none := (known entry (List.mem_append_right _
          (List.mem_cons_of_mem _ inside)) _ _ deed).2
        have other := reuse_ended ended landed here ((List.suffix_cons _ _).trans within) stands
        rw [kept (by rw [lease]; exact named), lease] at other
        exact absurd rfl other

end Ended

/-- What a vote in a deployment that removes records ends. Once its removal landed, its session has no
record until an update lands. An update that names a lease was decided on a record that was read after the
removal. So the first update asks for a new lease: it starts the session, and its call found no record
before the removal or after it, or it is a step to the choices or to the certificate that was decided on
a record read before the removal. -/
theorem vote_fences_off_leases (window : ServiceWindow) (events : List Event)
    (deleting : ∀ call, .start call ∈ events → call.completion = .delete)
    (newer older : List Entry) (j t : Nat) (vote : Call)
    (ended : (run window events).history = newer ++ ⟨j, vote, t, .deleted⟩ :: older) :
    vote.method = .vote ∧
    (Quiet vote.session newer →
      (run window events).store.seen (run window events).now vote.key = none) ∧
    ∀ (front back : List Entry) (i time : Nat) (call : Call) (request : UpdateRequest) (held : LeaseId),
      newer = front ++ ⟨i, call, time, .updated request held⟩ :: back → call.session = vote.session →
        (request.lease ≠ .none → ∃ record, ReadIn back i call record) ∧
        (Quiet vote.session back → request.lease = .none ∧
          (call.kind.Opens call.method call.transport request.auth ∧ ReadIn (back ++ older) i call .empty ∨
            (call.method = .voterChoices ∨ call.method = .getCertificate) ∧
              ∃ record, record ≠ .empty ∧ ReadIn older i call record)) := by
  refine ⟨removal_is_vote ended, absent_of_quiet ended, ?_⟩
  intro front back i time call request held landed here
  exact ⟨named_read_after ended landed here, first_update_after ended deleting landed here⟩

/-! ### Writes that come after the removal -/

/-- A session that a vote has ended has no record until a step that starts it was read, and then landed,
after the removal. -/
def State.StaysEnded (state : State) : Prop :=
  ∀ (newer older : List Entry) (j t : Nat) (vote : Call) (accepted : AcceptedTransition),
    state.history = newer ++ ⟨j, vote, t, .deleted⟩ :: older →
    (state.jobs[j]?.bind Job.result) = some (.ok accepted) →
    state.store.seen state.now vote.key ≠ none →
      ∃ front i call time request held back,
        newer = front ++ ⟨i, call, time, .updated request held⟩ :: back ∧ call.session = vote.session ∧
          ReadIn back i call .empty

/-- A call that reads before these events and writes after them. -/
def around (i : Nat) (late : Call) (events : List Event) : List Event :=
  [.start late, .read i 0 true] ++ events ++ [.write i 0 true]

def cardCall : Call := { choicesCall with transport := .tls }

def browserCall (method : Method) : Call := sampleCall .webEid .webEid method rfl

def lateEntry : List Event := around 0 cardCall (alone 1 0 cardCall ++ alone 2 0 voteCall)

def lateChoices : List Event :=
  alone 0 0 (browserCall .challenge) ++ alone 1 0 (browserCall .token) ++
    around 2 choicesCall (alone 3 0 choicesCall ++ alone 4 0 voteCall)

def lateCertificate : List Event :=
  alone 0 0 (phoneCall .authenticate) ++ alone 1 0 (phoneCall .authenticateStatus) ++ alone 2 0 choicesCall ++
    around 3 (phoneCall .getCertificate) (alone 4 0 (phoneCall .getCertificate) ++
      alone 5 0 (phoneCall .getCertificateStatus) ++ alone 6 0 (phoneCall .sign) ++
      alone 7 0 (phoneCall .signStatus) ++ alone 8 0 voteCall)

/-- The update of one call landed right after the removal of an accepted vote, and its record is there. -/
def Overtaken (late vote : Nat) (request : UpdateRequest) (held : LeaseId) (accepted : AcceptedTransition)
    (state : State) : Prop :=
  (state.history.take 2).map (fun entry => (entry.job, entry.session, entry.deed)) =
      [(late, request.header.sessionId, .updated request held), (vote, request.header.sessionId, .deleted)] ∧
    (state.jobs[vote]?.bind Job.result) = some (.ok accepted) ∧
    (state.store.seen state.now (Sessions.key request.header.sessionId)).isSome = true

instance (late vote : Nat) (request : UpdateRequest) (held : LeaseId) (accepted : AcceptedTransition)
    (state : State) : Decidable (Overtaken late vote request held accepted state) :=
  inferInstanceAs (Decidable (_ ∧ _))

section Overtaken

variable {late vote : Nat} {request : UpdateRequest} {held : LeaseId} {accepted : AcceptedTransition}
  {state : State} (overtaken : Overtaken late vote request held accepted state)
include overtaken

theorem Overtaken.history : ∃ call time ended t older,
    state.history = [⟨late, call, time, .updated request held⟩] ++ ⟨vote, ended, t, .deleted⟩ :: older ∧
      call.session = request.header.sessionId ∧ ended.session = request.header.sessionId := by
  obtain ⟨latest, _⟩ := overtaken
  rcases state with ⟨now, store, jobs, _ | ⟨first, _ | ⟨second, older⟩⟩⟩
  · cases latest
  · simp at latest
  · rcases first with ⟨i, call, time, deed⟩
    rcases second with ⟨j, ended, t, deed'⟩
    simp only [List.take_succ_cons, List.take_zero, List.map_cons, List.map_nil, List.cons.injEq,
      Prod.mk.injEq, and_true] at latest
    obtain ⟨⟨rfl, here, rfl⟩, rfl, here', rfl⟩ := latest
    exact ⟨call, time, ended, t, older, rfl, here, here'⟩

theorem Overtaken.not_staysEnded : ¬ state.StaysEnded := by
  obtain ⟨call, time, ended, t, older, history, _, session⟩ := overtaken.history
  obtain ⟨_, told, shown⟩ := overtaken
  intro stays
  rw [← session, Option.isSome_iff_ne_none] at shown
  obtain ⟨front, _, _, _, _, _, back, place, _, _, member⟩ := stays _ _ _ _ _ accepted history told shown
  -- the one update after the removal has no read before it
  have alone : back = [] := by
    have lengths := congrArg List.length place
    simp only [List.length_cons, List.length_nil, List.length_append] at lengths
    exact List.eq_nil_of_length_eq_zero (by omega)
  rw [alone] at member
  cases member

end Overtaken

theorem lateEntry_overtaken : Overtaken 0 2 (cardCall.request .idCard .none) ⟨2⟩
    (voteCall.deleting .idCard ⟨1⟩).accepted (run .always lateEntry) := by decide +kernel

theorem lateChoices_overtaken : Overtaken 2 4 (choicesCall.request .webEid .none) ⟨3⟩
    (voteCall.deleting .webEid ⟨2⟩).accepted (run .always lateChoices) := by decide +kernel

theorem lateCertificate_overtaken : Overtaken 3 8 ((phoneCall .getCertificate).request .mobileId .none) ⟨4⟩
    (voteCall.deleting .mobileId ⟨3⟩).accepted (run .always lateCertificate) := by decide +kernel

theorem lateCertificate_deleting (call : Call) (member : .start call ∈ lateCertificate) :
    call.completion = .delete := by
  revert call
  simp [lateCertificate, around, alone, phoneCall, choicesCall, voteCall, sampleCall]

/-- Events of a deployment that removes records, after which a session is there again that a vote has ended
and no step read later has started. -/
def Revives (events : List Event) : Prop :=
  (∀ call, .start call ∈ events → call.completion = .delete) ∧ ¬ (run .always events).StaysEnded

theorem late_writes_revive_a_session : Revives lateEntry ∧ Revives lateChoices ∧ Revives lateCertificate := by
  refine ⟨⟨?_, lateEntry_overtaken.not_staysEnded⟩, ⟨?_, lateChoices_overtaken.not_staysEnded⟩,
    lateCertificate_deleting, lateCertificate_overtaken.not_staysEnded⟩
  · simp [lateEntry, around, alone, cardCall, choicesCall, voteCall, sampleCall]
  · simp [lateChoices, around, alone, browserCall, choicesCall, voteCall, sampleCall]

theorem late_certificate_gets_a_lease :
    (∀ call, .start call ∈ lateCertificate → call.completion = .delete) ∧
    ∃ newer older j t vote,
      (run .always lateCertificate).history = newer ++ ⟨j, vote, t, .deleted⟩ :: older ∧
      vote.method = .vote ∧ ∃ i time call held, newer = [⟨i, call, time,
          .updated ((phoneCall .getCertificate).request .mobileId .none) held⟩] ∧
        (call.kind.Opens call.method call.transport .mobileId ∧ ReadIn older i call .empty ∨
          (call.method = .voterChoices ∨ call.method = .getCertificate) ∧
            ∃ record, record ≠ .empty ∧ ReadIn older i call record) := by
  obtain ⟨call, time, vote, t, older, history, here, session⟩ := lateCertificate_overtaken.history
  obtain ⟨voted, _, later⟩ := vote_fences_off_leases .always lateCertificate lateCertificate_deleting
    _ older 8 t vote history
  obtain ⟨_, first⟩ := later [] [] 3 time call _ ⟨4⟩ rfl (here.trans session.symm)
  obtain ⟨_, shape⟩ := first (by simp [Quiet])
  exact ⟨lateCertificate_deleting, _, older, 8, t, vote, history, voted, 3, time, call, ⟨4⟩, rfl, shape⟩

end Concurrent

end VoterSession
