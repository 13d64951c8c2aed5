import VoterSession.Proofs.Concurrent.System
set_option autoImplicit false

/-!
What a history says about itself: the update that a session's record comes from, and that every entry
has its reason in older entries. A read found the record that the last write on its session left, and a
write was asked for by a call that had read before.
-/
namespace VoterSession.Concurrent

structure Landing where
  time : Nat
  request : UpdateRequest
  held : LeaseId

def Landing.record (landing : Landing) : SessionRecord :=
  ⟨some landing.request.caller, landing.request.auth, landing.held⟩

/-- The update that the record of a session comes from; none when the session was not written or was
deleted since. -/
def standing? (id : SessionId) : List Entry → Option Landing
  | [] => none
  | entry :: older =>
    if entry.session = id then
      match entry.deed with
      | .read _ => standing? id older
      | .updated request held => some ⟨entry.time, request, held⟩
      | .deleted => none
    else standing? id older

def Grounded (history : List Entry) (i : Nat) (call : Call) (plan : Plan) : Prop :=
  ∃ time record older, ⟨i, call, time, .read record⟩ :: older <:+ history ∧ call.judge record = .ok plan

def Deed.Of (deed : Deed) : SessionWrite → Prop
  | .update request => ∃ held, deed = .updated request held
  | .delete _ => deed = .deleted

/-- The write that a call planned landed, and this is what its front end is told of it. -/
def Landed (history : List Entry) (i : Nat) (call : Call) (accepted : AcceptedTransition) : Prop :=
  ∃ plan time deed older, ⟨i, call, time, deed⟩ :: older <:+ history ∧ Grounded older i call plan ∧
    deed.Of plan.write ∧ accepted = plan.accepted

def Current (history : List Entry) (id : SessionId) (record : SessionRecord) : Prop :=
  record = .empty ∨ ∃ landing, standing? id history = some landing ∧ record = landing.record

/-- The reason that an entry has in what came before it. -/
def Justified (older : List Entry) (entry : Entry) : Prop :=
  match entry.deed with
  | .read record => Current older entry.session record
  | .updated request held => ∃ plan, Grounded older entry.job entry.call plan ∧
      plan.write = .update request ∧ (request.lease ≠ .none → held = request.lease)
  | .deleted => ∃ plan request, Grounded older entry.job entry.call plan ∧ plan.write = .delete request

def Chronicle : List Entry → Prop
  | [] => True
  | entry :: older => Justified older entry ∧ Chronicle older

/-- An update on this lease landed: on this session, with this tag, in this stage. -/
def Granted (history : List Entry) (held : LeaseId) (id : SessionId) (tag : AuthTag) (stage : Stage) :
    Prop :=
  ∃ entry ∈ history, ∃ request, entry.deed = .updated request held ∧ entry.session = id ∧
    request.auth = tag ∧ request.caller.stage = stage

variable {history older : List Entry} {entry : Entry} {id : SessionId}

theorem standing?_cons_of_ne (h : entry.session ≠ id) :
    standing? id (entry :: history) = standing? id history := by
  rw [standing?, if_neg h]

theorem standing?_cons_read {record : SessionRecord} (h : entry.deed = .read record) :
    standing? id (entry :: history) = standing? id history := by
  rw [standing?, h]
  exact ite_self _

theorem standing?_cons_updated {request : UpdateRequest} {held : LeaseId} (here : entry.session = id)
    (h : entry.deed = .updated request held) :
    standing? id (entry :: history) = some ⟨entry.time, request, held⟩ := by
  rw [standing?, if_pos here, h]

theorem standing?_cons_deleted (here : entry.session = id) (h : entry.deed = .deleted) :
    standing? id (entry :: history) = none := by
  rw [standing?, if_pos here, h]

theorem mem_of_standing? {landing : Landing} (h : standing? id history = some landing) :
    ∃ entry ∈ history, entry.session = id ∧ entry.time = landing.time ∧
      entry.deed = .updated landing.request landing.held := by
  induction history with
  | nil => cases h
  | cons first rest ih =>
    by_cases here : first.session = id
    · cases hdeed : first.deed with
      | read record =>
        rw [standing?_cons_read hdeed] at h
        obtain ⟨entry, member, found⟩ := ih h
        exact ⟨entry, List.mem_cons_of_mem _ member, found⟩
      | updated request held =>
        rw [standing?_cons_updated here hdeed] at h
        cases h
        exact ⟨first, List.mem_cons_self, here, rfl, hdeed⟩
      | deleted =>
        rw [standing?_cons_deleted here hdeed] at h
        cases h
    · rw [standing?_cons_of_ne here] at h
      obtain ⟨entry, member, found⟩ := ih h
      exact ⟨entry, List.mem_cons_of_mem _ member, found⟩

theorem granted_of_standing? {landing : Landing} (h : standing? id history = some landing) :
    Granted history landing.held id landing.request.auth landing.request.caller.stage := by
  obtain ⟨entry, member, here, _, hdeed⟩ := mem_of_standing? h
  exact ⟨entry, member, landing.request, hdeed, here, rfl, rfl⟩

theorem Granted.mono {held : LeaseId} {tag : AuthTag} {stage : Stage} (within : older <:+ history)
    (h : Granted older held id tag stage) : Granted history held id tag stage := by
  obtain ⟨entry, member, found⟩ := h
  exact ⟨entry, within.subset member, found⟩

theorem Granted.of_cons {held : LeaseId} {tag : AuthTag} {stage : Stage}
    (h : Granted (entry :: history) held id tag stage) : Granted history held id tag stage ∨
      ∃ request, entry.deed = .updated request held ∧ entry.session = id ∧ request.auth = tag ∧
        request.caller.stage = stage := by
  obtain ⟨found, member, request, rest⟩ := h
  obtain rfl | member := List.mem_cons.1 member
  · exact .inr ⟨request, rest⟩
  · exact .inl ⟨found, member, request, rest⟩

theorem Granted.of_cons_other {held : LeaseId} {tag : AuthTag} {stage : Stage}
    (other : ∀ request, entry.deed ≠ .updated request held)
    (h : Granted (entry :: history) held id tag stage) : Granted history held id tag stage := by
  obtain earlier | ⟨request, hdeed, _⟩ := h.of_cons
  · exact earlier
  · exact absurd hdeed (other request)

theorem Grounded.mono {i : Nat} {call : Call} {plan : Plan} (within : older <:+ history)
    (h : Grounded older i call plan) : Grounded history i call plan := by
  obtain ⟨time, record, rest, place, decided⟩ := h
  exact ⟨time, record, rest, place.trans within, decided⟩

theorem Landed.mono {i : Nat} {call : Call} {accepted : AcceptedTransition} (within : older <:+ history)
    (h : Landed older i call accepted) : Landed history i call accepted := by
  obtain ⟨plan, time, deed, rest, place, found⟩ := h
  exact ⟨plan, time, deed, rest, place.trans within, found⟩

theorem Chronicle.suffix (chronicle : Chronicle history) (within : older <:+ history) :
    Chronicle older := by
  induction history with
  | nil =>
    rw [List.suffix_nil.1 within]
    trivial
  | cons first rest ih =>
    obtain rfl | within := List.suffix_cons_iff.1 within
    · exact chronicle
    · exact ih chronicle.2 within

theorem Chronicle.justified (chronicle : Chronicle history) (within : entry :: older <:+ history) :
    Justified older entry := (chronicle.suffix within).1

theorem Chronicle.held_eq (chronicle : Chronicle history) (member : entry ∈ history)
    {request : UpdateRequest} {held : LeaseId} (deed : entry.deed = .updated request held)
    (named : request.lease ≠ .none) : held = request.lease := by
  obtain ⟨newer, older, rfl⟩ := List.append_of_mem member
  have justified := chronicle.justified (List.suffix_append newer _)
  unfold Justified at justified
  rw [deed] at justified
  obtain ⟨_, _, _, same⟩ := justified
  exact same named

theorem Chronicle.current (chronicle : Chronicle history) {i : Nat} {call : Call} {plan : Plan}
    (grounded : Grounded history i call plan) : ∃ time record older,
      ⟨i, call, time, .read record⟩ :: older <:+ history ∧ call.judge record = .ok plan ∧
        Current older call.session record := by
  obtain ⟨time, record, older, within, decided⟩ := grounded
  exact ⟨time, record, older, within, decided, chronicle.justified within⟩

/-- All that a plan in flight can be: it starts the session, or goes on from an update that had landed on
the session before the read. -/
theorem Chronicle.plan_cases (chronicle : Chronicle history) {i : Nat} {call : Call} {plan : Plan}
    (grounded : Grounded history i call plan) : call.header.validate = .ok () ∧
      ((∃ tag, tag.isResolved = true ∧ call.kind.Opens call.method call.transport tag ∧
          plan = call.updating tag .none) ∨
        ∃ landing : Landing, Granted history landing.held call.session landing.request.auth
            landing.request.caller.stage ∧
          landing.request.auth.isResolved = true ∧
          ((∃ asked : LeaseId, (asked = .none ∨
              asked = landing.held ∧ landing.request.caller.stage = call.method.stage) ∧
              0 ≤ asked.number ∧ plan = call.updating landing.request.auth asked) ∨
            plan = call.deleting landing.request.auth landing.held)) := by
  obtain ⟨time, record, older, within, decided, empty | ⟨landing, stands, left⟩⟩ :=
    chronicle.current grounded
  · subst empty
    obtain ⟨valid, tag, resolved, opens, _, shape⟩ := Call.judge_empty decided
    exact ⟨valid, .inl ⟨tag, resolved, opens, shape⟩⟩
  · subst left
    obtain ⟨valid, ⟨resolved, _⟩, shape⟩ := Call.judge_record decided
    have granted := (granted_of_standing? stands).mono ((List.suffix_cons _ _).trans within)
    refine ⟨valid, .inr ⟨landing, granted, resolved, ?_⟩⟩
    obtain ⟨asked, source, counted, _, shape⟩ | ⟨_, _, shape⟩ := shape
    · exact .inl ⟨asked, source, counted, shape⟩
    · exact .inr shape

/-- What an update in flight asks for; a lease that it names was granted to its session, with its tag and
in its stage. -/
theorem Chronicle.update_asked (chronicle : Chronicle history) {i : Nat} {call : Call} {plan : Plan}
    (grounded : Grounded history i call plan) {request : UpdateRequest}
    (asks : plan.write = .update request) : request.validate = .ok () ∧
      request = call.request request.auth request.lease ∧ plan = call.updating request.auth request.lease ∧
      (request.lease ≠ .none →
        Granted history request.lease call.session request.auth request.caller.stage) := by
  obtain ⟨valid, ⟨tag, resolved, _, rfl⟩ | ⟨landing, granted, resolved, shape⟩⟩ :=
    chronicle.plan_cases grounded
  · cases asks
    exact ⟨Call.request_valid valid resolved (Int.le_refl 0), rfl, rfl, fun named => absurd rfl named⟩
  · obtain ⟨asked, source, counted, rfl⟩ | rfl := shape
    · cases asks
      refine ⟨Call.request_valid valid resolved counted, rfl, rfl, ?_⟩
      intro named
      obtain fresh | ⟨same, stage⟩ := source
      · exact absurd fresh named
      · simp only [Call.request, same]
        rw [← stage]
        exact granted
    · cases asks

theorem Chronicle.delete_asked (chronicle : Chronicle history) {i : Nat} {call : Call} {plan : Plan}
    (grounded : Grounded history i call plan) {request : DeleteRequest}
    (asks : plan.write = .delete request) :
    request = { header := call.header } ∧ plan.accepted.outcome = .deleted := by
  obtain ⟨_, ⟨_, _, _, rfl⟩ | ⟨_, _, _, ⟨_, _, _, rfl⟩ | rfl⟩⟩ := chronicle.plan_cases grounded
  · cases asks
  · cases asks
  · cases asks
    exact ⟨rfl, rfl⟩

theorem Chronicle.updated (chronicle : Chronicle history) {entry : Entry} {request : UpdateRequest}
    {held : LeaseId} (within : entry :: older <:+ history) (deed : entry.deed = .updated request held) :
    ∃ plan, Grounded older entry.job entry.call plan ∧ plan.accepted.auth = request.auth ∧
      request = entry.call.request request.auth request.lease := by
  have justified := chronicle.justified within
  unfold Justified at justified
  rw [deed] at justified
  obtain ⟨plan, grounded, asks, _⟩ := justified
  have earlier := chronicle.suffix ((List.suffix_cons _ _).trans within)
  obtain ⟨_, shape, planned, _⟩ := earlier.update_asked grounded asks
  refine ⟨plan, grounded, ?_, shape⟩
  rw [planned]
  rfl

end VoterSession.Concurrent
