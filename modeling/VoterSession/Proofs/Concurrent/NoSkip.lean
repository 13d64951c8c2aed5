import VoterSession.Proofs.Concurrent.Ledger
import VoterSession.Proofs.Workflow.Course
set_option autoImplicit false

/-!
No call gets past a stage that its session has not been through, whatever comes between its two messages.
Main statement: `no_stage_skipped`.
-/
namespace VoterSession.Concurrent

/-- The methods of the updates that landed on a session with this tag, the latest first. -/
def landed (id : SessionId) (tag : AuthTag) (history : List Entry) : List Method :=
  history.filterMap fun entry =>
    match entry.deed with
    | .updated request _ => if entry.session = id ∧ request.auth = tag then some request.caller else none
    | _ => none

variable {history older : List Entry} {id : SessionId} {tag : AuthTag}

theorem landed_suffix (within : older <:+ history) : (landed id tag older).Sublist (landed id tag history) :=
  within.sublist.filterMap _

theorem landed_cons_updated {entry : Entry} {request : UpdateRequest} {held : LeaseId}
    (here : entry.session = id) (deed : entry.deed = .updated request held) (same : request.auth = tag) :
    landed id tag (entry :: history) = request.caller :: landed id tag history := by
  unfold landed
  rw [List.filterMap_cons, deed]
  simp only [here, same, and_self, if_true]

theorem suffix_of_standing? {landing : Landing} (h : standing? id history = some landing) :
    ∃ entry older, entry :: older <:+ history ∧ entry.session = id ∧
      entry.deed = .updated landing.request landing.held := by
  obtain ⟨entry, member, here, _, deed⟩ := mem_of_standing? h
  obtain ⟨newer, older, rfl⟩ := List.append_of_mem member
  exact ⟨entry, older, List.suffix_append newer _, here, deed⟩

theorem judged_place {call : Call} {record : SessionRecord} {plan : Plan} {front back : List Method}
    (current : Current history call.session record) (decided : call.judge record = .ok plan)
    (place : plan.accepted.auth.course = front ++ call.method :: back) :
    front = [] ∨ ∃ landing : Landing, standing? call.session history = some landing ∧
      landing.request.auth = plan.accepted.auth ∧
      (landing.request.caller = call.method ∨ ∃ front', front = front' ++ [landing.request.caller]) := by
  obtain rfl | ⟨landing, stands, rfl⟩ := current
  · obtain ⟨_, tag, _, opens, _, rfl⟩ := Call.judge_empty decided
    exact .inl (AuthTag.opens_place opens place)
  · obtain ⟨_, ⟨_, _, follows, _⟩, shape⟩ := Call.judge_record decided
    have same : landing.request.auth = plan.accepted.auth := by
      obtain ⟨_, _, _, _, rfl⟩ | ⟨_, _, rfl⟩ := shape <;> rfl
    rw [same] at follows
    refine .inr ⟨landing, stands, same, ?_⟩
    obtain ⟨again, _⟩ | before := AuthTag.follows_place follows place
    · exact .inl again
    · exact .inr before

/-- Where a plan stands on the course of its tag, every method before it has landed, in order. The
induction is on the length of the history: the record that the call read was left by an update that landed before. -/
theorem Chronicle.route_landed (chronicle : Chronicle history) {i : Nat} {call : Call} {plan : Plan}
    {front back : List Method} (grounded : Grounded history i call plan)
    (place : plan.accepted.auth.course = front ++ call.method :: back) :
    front.reverse.Sublist (landed call.session plan.accepted.auth history) := by
  induction size : history.length using Nat.strong_induction_on generalizing history i call plan front back with
  | _ length ih =>
    obtain ⟨time, record, before, read, decided⟩ := grounded
    obtain rfl | ⟨landing, stands, same, step⟩ := judged_place (chronicle.justified read) decided place
    · exact List.nil_sublist _
    obtain ⟨entry, older, within, here, deed⟩ := suffix_of_standing? stands
    have within := within.trans ((List.suffix_cons _ _).trans read)
    obtain ⟨earlier, grounded, auth, shape⟩ := chronicle.updated within deed
    have caller : landing.request.caller = entry.call.method := by rw [shape]; rfl
    have shorter : older.length < length := by
      rw [← size]
      exact within.length_le
    have past {front back : List Method} (place : plan.accepted.auth.course = front ++ entry.call.method :: back) :
        front.reverse.Sublist (landed call.session plan.accepted.auth older) := by
      rw [← same, ← auth] at place ⊢
      rw [← here]
      exact ih older.length shorter (chronicle.suffix ((List.suffix_cons _ _).trans within)) grounded place rfl
    -- a poll is where its call was, and any other method one step farther
    obtain again | ⟨front', rfl⟩ := step
    · have landed := past (by rw [← caller, again]; exact place)
      exact landed.trans (landed_suffix ((List.suffix_cons _ _).trans within))
    · have landed : front'.reverse.Sublist (landed call.session plan.accepted.auth older) :=
        @past front' (call.method :: back) (by rw [← caller, place]; simp)
      rw [List.reverse_append, List.reverse_singleton, List.singleton_append]
      refine List.Sublist.trans ?_ (landed_suffix within)
      rw [landed_cons_updated here deed same]
      exact landed.cons_cons _

/-- What an update that landed had for its call to read: nothing, and it starts the session, or the record
of an update that landed before on the same session, and it takes one row of its table from there. -/
def GoesOn (history : List Entry) (i : Nat) (call : Call) (tag : AuthTag) : Prop :=
  ∃ time record before, ⟨i, call, time, .read record⟩ :: before <:+ history ∧
    (record = .empty ∧ call.kind.Opens call.method call.transport tag ∨
      ∃ entry ∈ before, ∃ request held, entry.deed = .updated request held ∧
        entry.session = call.session ∧ request.auth = tag ∧
        record = ⟨some request.caller, request.auth, held⟩ ∧
        call.verifier.table.HasRow request.caller tag call.method)

theorem Chronicle.goes_on (chronicle : Chronicle history) {i : Nat} {call : Call} {plan : Plan}
    (grounded : Grounded history i call plan) : GoesOn history i call plan.accepted.auth := by
  obtain ⟨time, record, before, within, decided, rfl | ⟨landing, stands, rfl⟩⟩ :=
    chronicle.current grounded
  · obtain ⟨_, tag, _, opens, _, rfl⟩ := Call.judge_empty decided
    exact ⟨time, .empty, before, within, .inl ⟨rfl, opens⟩⟩
  · obtain ⟨_, ⟨_, row, _⟩, shape⟩ := Call.judge_record decided
    have same : plan.accepted.auth = landing.request.auth := by
      obtain ⟨_, _, _, _, rfl⟩ | ⟨_, _, rfl⟩ := shape <;> rfl
    obtain ⟨entry, member, here, _, deed⟩ := mem_of_standing? stands
    rw [same]
    exact ⟨time, landing.record, before, within,
      .inr ⟨entry, member, landing.request, landing.held, deed, here, rfl, rfl, row⟩⟩

theorem Chronicle.accepted_method (chronicle : Chronicle history) {i : Nat} {call : Call} {plan : Plan}
    (grounded : Grounded history i call plan) : plan.accepted.method = call.method := by
  obtain ⟨_, ⟨_, _, _, rfl⟩ | ⟨_, _, _, ⟨_, _, _, rfl⟩ | rfl⟩⟩ := chronicle.plan_cases grounded <;> rfl

/-- In every run: an update that landed goes on from what its call read, and the front end of a phone vote
is told that it is accepted only after every step before the vote has landed, in order, on the same session
and with the same tag. -/
theorem no_stage_skipped (window : ServiceWindow) (events : List Event) :
    (∀ i call time request held older,
      ⟨i, call, time, .updated request held⟩ :: older <:+ (run window events).history →
      request.header.sessionId = call.session ∧ request.caller = call.method ∧
        GoesOn older i call request.auth) ∧
    (∀ i call accepted, (run window events).Told i call accepted → accepted.method = .vote →
      accepted.auth = .mobileId ∨ accepted.auth = .smartId →
      ∃ time deed older, ⟨i, call, time, deed⟩ :: older <:+ (run window events).history ∧
        (∀ record, deed ≠ .read record) ∧
        [.authenticate, .authenticateStatus, .voterChoices, .getCertificate, .getCertificateStatus, .sign,
          .signStatus].Sublist (landed call.session accepted.auth older).reverse) := by
  obtain ⟨_, ledger⟩ := ledger_run window events
  refine ⟨?_, ?_⟩
  · intro i call time request held older within
    obtain ⟨plan, grounded, tag, shape⟩ := ledger.chronicle.updated within rfl
    have earlier := ledger.chronicle.suffix ((List.suffix_cons _ _).trans within)
    have goes_on := earlier.goes_on grounded
    rw [tag] at goes_on
    rw [shape]
    exact ⟨rfl, rfl, goes_on⟩
  · intro i call accepted told vote phone
    obtain ⟨plan, time, deed, older, within, grounded, write, rfl⟩ := ledger.told told
    have earlier := ledger.chronicle.suffix ((List.suffix_cons _ _).trans within)
    rw [earlier.accepted_method grounded] at vote
    refine ⟨time, deed, older, within, ?_, ?_⟩
    · rintro record rfl
      cases hwrite : plan.write with
      | update request =>
        rw [hwrite] at write
        obtain ⟨_, impossible⟩ := write
        cases impossible
      | delete request =>
        rw [hwrite] at write
        cases write
    · have place : plan.accepted.auth.course =
          [.authenticate, .authenticateStatus, .voterChoices, .getCertificate, .getCertificateStatus,
            .sign, .signStatus] ++ call.method :: [.verify] := by
        rw [vote]
        obtain phone | phone := phone <;> rw [phone] <;> rfl
      have past := (earlier.route_landed grounded place).reverse
      rw [List.reverse_reverse] at past
      exact past

theorem phone_session_goes_on :
    (∃ i call request older held time,
      ⟨i, call, time, .updated request held⟩ :: older <:+ (run .always phoneSession).history ∧
        GoesOn older i call request.auth) ∧
    ∃ call accepted time deed older, (run .always phoneSession).Told 7 call accepted ∧
      accepted.method = .vote ∧
      ⟨7, call, time, deed⟩ :: older <:+ (run .always phoneSession).history ∧
      [.authenticate, .authenticateStatus, .voterChoices, .getCertificate, .getCertificateStatus, .sign,
        .signStatus].Sublist (landed call.session .mobileId older).reverse := by
  have vote : ((run .always phoneSession).jobs[7]?.bind Job.result) =
      some (.ok ⟨.vote, .mobileId, ⟨3⟩, .deleted, 0x53530002⟩) := by decide +kernel
  obtain ⟨job, hjob, result⟩ := Option.bind_eq_some_iff.1 vote
  have told : (run .always phoneSession).Told 7 job.call _ := ⟨job, hjob, rfl, result⟩
  obtain ⟨time, deed, older, within, _, past⟩ :=
    (no_stage_skipped .always phoneSession).2 7 job.call _ told rfl (.inl rfl)
  refine ⟨?_, job.call, _, time, deed, older, told, rfl, within, past⟩
  have member : Method.signStatus ∈ landed job.call.session .mobileId older := by
    rw [← List.mem_reverse]
    exact past.subset (by decide)
  obtain ⟨entry, found, updated⟩ := List.mem_filterMap.1 member
  obtain ⟨newer, rest, rfl⟩ := List.append_of_mem found
  obtain ⟨i, call, moment, deed⟩ := entry
  cases deed with
  | read record => cases updated
  | deleted => cases updated
  | updated request held =>
    have inside : ⟨i, call, moment, .updated request held⟩ :: rest <:+
        (run .always phoneSession).history :=
      (List.suffix_append newer _).trans ((List.suffix_cons _ _).trans within)
    exact ⟨i, call, request, rest, held, moment, inside,
      ((no_stage_skipped .always phoneSession).1 i call moment request held rest inside).2.2⟩

end VoterSession.Concurrent
