import VoterSession.Proofs.Sequential.Visit
import VoterSession.Proofs.Workflow.Word
set_option autoImplicit false

/-!
The lifecycle of a session, for calls one after another: what it accepted since it last had no record
begins a word of one tag. Every call keeps to that, whether it is refused, goes on with the record or
starts again. Main statement: `known_run`.
-/
namespace VoterSession.Sequential

structure Success where
  call : Call
  step : AcceptedTransition

def Visited.success? (id : SessionId) (entry : Visited) : Option Success :=
  if entry.call.session = id then entry.result.toOption.map (Success.mk entry.call) else none

/-- The accepted calls of a session since it last had no record, the latest first. -/
def life (id : SessionId) : List Visited → List Success
  | [] => []
  | entry :: older =>
    if entry.call.session = id ∧ entry.recorded = false then (entry.success? id).toList
    else (entry.success? id).toList ++ life id older

/-- Calls to services of one deployment: the same lifetimes, and the same way to end a session. -/
def Uniform (ttls : StageTtls) (completion : VoteCompletion) (visits : List Visit) : Prop :=
  ∀ visit ∈ visits, visit.call.verifier.ttls = ttls ∧ visit.call.completion = completion

/-- Accepted calls, the latest first, that begin a word of the tag and were answered by its services. -/
structure Lifecycle (completion : VoteCompletion) (tag : AuthTag) (successes : List Success) : Prop where
  resolved : tag.isResolved = true
  begun : tag.Begun completion (successes.map fun success => success.step.method).reverse
  served : ∀ success ∈ successes, success.step.auth = tag ∧
    success.call.kind = .serving tag success.step.method ∧
      (tag = .idCard → success.step.method = .voterChoices → success.call.transport = .tls)

def Known (completion : VoteCompletion) (id : SessionId) (state : State) : Prop :=
  ∃ tag, Lifecycle completion tag (life id state.trace) ∧
    ∀ holding ∈ state.store.seen state.now (Sessions.key id), ∃ last older,
      life id state.trace = last :: older ∧
        holding.value = RecordText.encode (some last.step.method) tag ∧
          (last.step.method = .vote → completion = .handoff)

variable {window : ServiceWindow} {ttls : StageTtls} {completion : VoteCompletion} {id : SessionId}
  {tag : AuthTag} {call : Call} {entry : Visited} {trace : List Visited} {state : State} {visit : Visit}

theorem Uniform.tidy {before after : List Visit} (uniform : Uniform ttls completion (before ++ after))
    (window : ServiceWindow) : Tidy ttls (run window before).now (run window before).store :=
  tidy_run fun old member => (uniform old (List.mem_append_left _ member)).1

theorem Uniform.next {before after : List Visit}
    (uniform : Uniform ttls completion (before ++ visit :: after)) :
    visit.call.verifier.ttls = ttls ∧ visit.call.completion = completion :=
  uniform visit (List.mem_append_right _ List.mem_cons_self)

/-! ### What a call adds to a life -/

theorem success_of_other (other : entry.call.session ≠ id) : entry.success? id = none := if_neg other

theorem life_other (other : entry.call.session ≠ id) : life id (entry :: trace) = life id trace := by
  rw [life, if_neg fun own => other own.1, success_of_other other]
  rfl

theorem life_restarted {result : Except VerifyError AcceptedTransition} {after : LeaseStore}
    (shown : state.store.seen (state.now + visit.gap) visit.call.key = none) :
    life visit.call.session (state.answered visit result after).trace =
      (result.toOption.map (Success.mk visit.call)).toList := by
  simp only [State.answered, shown, life, Visited.success?, Option.isSome_none, and_self, if_true]

theorem life_continued {result : Except VerifyError AcceptedTransition} {after : LeaseStore}
    {holding : Holding} (shown : state.store.seen (state.now + visit.gap) visit.call.key = some holding) :
    life visit.call.session (state.answered visit result after).trace =
      (result.toOption.map (Success.mk visit.call)).toList ++ life visit.call.session state.trace := by
  simp only [State.answered, shown, life, Visited.success?, Option.isSome_some, Bool.true_eq_false, and_false,
    if_true, if_false]

/-! ### Lives along a word -/

namespace Lifecycle

theorem nil (completion : VoteCompletion) : Lifecycle completion .mobileId [] where
  resolved := rfl
  begun := (AuthTag.Walk.nil _).begun (by simp)
  served := by simp

theorem start (completion : VoteCompletion) (resolved : tag.isResolved = true)
    (opens : call.kind.Opens call.method call.transport tag)
    (serving : call.kind = .serving tag call.method) :
    Lifecycle completion tag [⟨call, (call.updating tag .none).accepted⟩] where
  resolved := resolved
  begun := by
    apply (AuthTag.walk_singleton_iff.2 (AuthTag.head_of_opens opens)).begun
    intro _ member
    rw [← List.mem_singleton.1 member] at opens
    exact opens
  served := by
    intro success member
    cases List.mem_singleton.1 member
    refine ⟨rfl, serving, ?_⟩
    intro _ choices
    have first : call.method = .voterChoices := choices
    rw [first] at opens
    exact opens.2

theorem next {prior : Success} {older : List Success} {step : AcceptedTransition}
    (life : Lifecycle completion tag (prior :: older))
    (handed : prior.step.method = .vote → completion = .handoff)
    (follows : tag.Follows prior.step.method step.method) (auth : step.auth = tag)
    (serving : call.kind = .serving tag step.method) :
    Lifecycle completion tag (⟨call, step⟩ :: prior :: older) where
  resolved := life.resolved
  begun := by
    have begun := life.begun
    simp only [List.map_cons, List.reverse_cons] at begun ⊢
    obtain ⟨walk, unchecked⟩ := AuthTag.begun_iff.1 begun
    refine AuthTag.begun_iff.2 ⟨AuthTag.walk_concat_iff.2 ⟨walk, follows⟩, ?_⟩
    intro removing member
    have unchecked := unchecked removing
    rw [List.mem_append, List.mem_singleton] at member
    obtain earlier | checks := member
    · exact unchecked earlier
    · rw [← checks] at follows
      obtain voted | checked := AuthTag.follows_before_verify follows
      · rw [handed voted] at removing
        cases removing
      · apply unchecked
        rw [checked]
        simp
  served := by
    intro success member
    obtain rfl | earlier := List.mem_cons.1 member
    · refine ⟨auth, serving, ?_⟩
      rintro rfl choices
      rw [show step.method = .voterChoices from choices] at follows
      exact absurd follows (AuthTag.idCard_not_follows _)
    · exact life.served success earlier

end Lifecycle

/-! ### Every call keeps to a life -/

theorem Known.other (known : Known completion id state) (tidy : Tidy ttls state.now state.store)
    (shared : visit.call.verifier.ttls = ttls) (other : visit.call.session ≠ id) :
    Known completion id (state.visit window visit) := by
  obtain ⟨tag, lived, shown⟩ := known
  have same : life id (state.visit window visit).trace = life id state.trace := life_other other
  have apart : Sessions.key id ≠ visit.call.key := fun h => other (Sessions.key_injective h).symm
  refine ⟨tag, by rw [same]; exact lived, ?_⟩
  intro holding h
  have before : state.store.seen (state.now + visit.gap) (Sessions.key id) = some holding :=
    (visit_others tidy shared apart).symm.trans h
  rw [same]
  exact shown holding (tidy.sound.seen_mono (Nat.le_add_right _ _) before).1

theorem Known.refused {failure : VerifyError} {after : LeaseStore}
    (known : Known completion visit.call.session state) (sound : state.store.Sound)
    (unmoved : LeaseStore.Unmoved (state.now + visit.gap) state.store after) :
    Known completion visit.call.session (state.answered visit (.error failure) after) := by
  obtain ⟨tag, lived, shown⟩ := known
  cases hrecord : state.store.seen (state.now + visit.gap) visit.call.key with
  | none =>
    have ended : life visit.call.session (state.answered visit (.error failure) after).trace = [] := by
      rw [life_restarted hrecord]
      rfl
    refine ⟨.mobileId, by rw [ended]; exact .nil completion, ?_⟩
    intro holding h
    have absent := (unmoved.seen visit.call.key).trans hrecord
    rw [State.answered, ← Call.key, absent] at h
    cases h
  | some found =>
    have same : life visit.call.session (state.answered visit (.error failure) after).trace =
        life visit.call.session state.trace := by
      rw [life_continued hrecord]
      rfl
    refine ⟨tag, by rw [same]; exact lived, ?_⟩
    intro holding h
    rw [same]
    have before := (unmoved.seen visit.call.key).symm.trans h
    exact shown holding (sound.seen_mono (Nat.le_add_right _ _) before).1

theorem Known.started {plan : Plan} {after : LeaseStore}
    (shown : state.store.seen (state.now + visit.gap) visit.call.key = none)
    (decided : visit.call.judge .empty = .ok plan)
    (effect : Effect (state.now + visit.gap) visit.call plan state.store after) :
    Known completion visit.call.session (state.answered visit (.ok plan.accepted) after) := by
  obtain ⟨_, tag, resolved, opens, serving, rfl⟩ := Call.judge_empty decided
  have restarted : life visit.call.session (state.answered visit
      (.ok (visit.call.updating tag .none).accepted) after).trace =
        [⟨visit.call, (visit.call.updating tag .none).accepted⟩] := by
    rw [life_restarted shown]
    rfl
  refine ⟨tag, by rw [restarted]; exact .start completion resolved opens serving, ?_⟩
  intro holding h
  obtain ⟨lease, own⟩ := Advanced.own effect
  cases own.symm.trans h
  refine ⟨_, _, restarted, rfl, ?_⟩
  intro voted
  have vote : visit.call.method = .vote := voted
  rw [vote] at opens
  exact opens.elim

theorem Known.continued {holding : Holding} {prior : Method} {tag : AuthTag} {plan : Plan}
    {after : LeaseStore} (known : Known completion visit.call.session state)
    (sound : state.store.Sound) (agreed : visit.call.completion = completion)
    (shown : state.store.seen (state.now + visit.gap) visit.call.key = some holding)
    (written : holding.value = RecordText.encode (some prior) tag)
    (decided : visit.call.judge ⟨some prior, tag, holding.lease⟩ = .ok plan)
    (effect : Effect (state.now + visit.gap) visit.call plan state.store after) :
    Known completion visit.call.session (state.answered visit (.ok plan.accepted) after) := by
  obtain ⟨tag', lived, known⟩ := known
  obtain ⟨last, older, hlife, value, handed⟩ :=
    known holding (sound.seen_mono (Nat.le_add_right _ _) shown).1
  obtain ⟨hprior, rfl⟩ := RecordText.encode_injective (written.symm.trans value)
  cases hprior
  obtain ⟨_, ⟨_, _, follows, serving⟩, shape⟩ := Call.judge_record decided
  have extended : life visit.call.session (state.answered visit (.ok plan.accepted) after).trace =
      ⟨visit.call, plan.accepted⟩ :: last :: older := by
    rw [life_continued shown, hlife]
    rfl
  have facts : plan.accepted.method = visit.call.method ∧ plan.accepted.auth = tag := by
    obtain ⟨asked, _, _, _, rfl⟩ | ⟨_, _, rfl⟩ := shape <;> exact ⟨rfl, rfl⟩
  obtain ⟨method, auth⟩ := facts
  rw [hlife] at lived
  rw [← method] at follows serving
  refine ⟨tag, by rw [extended]; exact lived.next handed follows auth serving, ?_⟩
  intro holding' h
  refine ⟨_, _, extended, ?_⟩
  obtain ⟨asked, _, _, handed', rfl⟩ | ⟨_, _, rfl⟩ := shape
  · obtain ⟨lease, own⟩ := Advanced.own effect
    cases own.symm.trans h
    rw [← agreed]
    exact ⟨rfl, handed'⟩
  · have gone : after.seen (state.now + visit.gap) visit.call.key = none :=
      (LeaseStore.Removed.seen effect visit.call.key).trans (if_pos rfl)
    cases gone.symm.trans h

theorem Known.after_visit (known : Known completion id state) (tidy : Tidy ttls state.now state.store)
    (shared : visit.call.verifier.ttls = ttls) (agreed : visit.call.completion = completion) :
    Known completion id (state.visit window visit) := by
  by_cases own : visit.call.session = id
  · subst own
    have later := tidy.later (Nat.le_add_right state.now visit.gap)
    obtain ⟨failure, after, answered, unmoved⟩ | ⟨record, plan, after, reads, decided, answered, effect⟩ :=
      answer_cases window visit.serviceNow later shared
    · rw [State.visit_eq answered]
      exact known.refused tidy.sound unmoved
    · rw [State.visit_eq answered]
      cases reads with
      | absent shown => exact .started shown decided effect
      | present shown written => exact known.continued tidy.sound agreed shown written decided effect
  · exact known.other tidy shared own

theorem known_run {visits : List Visit} (uniform : Uniform ttls completion visits) (id : SessionId) :
    Known completion id (run window visits) := by
  induction visits using List.reverseRecOn with
  | nil =>
    refine ⟨.mobileId, .nil completion, ?_⟩
    intro holding h
    cases (LeaseStore.seen_empty 0 (Sessions.key id)).symm.trans h
  | append_singleton visits visit ih =>
    have earlier : Uniform ttls completion visits :=
      fun old member => uniform old (List.mem_append_left _ member)
    obtain ⟨shared, agreed⟩ := uniform.next
    rw [run_concat]
    exact (ih earlier).after_visit (uniform.tidy window) shared agreed

end VoterSession.Sequential
