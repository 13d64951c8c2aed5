import VoterSession.Proofs.Sequential.Lifecycle
set_option autoImplicit false

/-!
The language of the lifecycles. What a session accepts begins a word, and the calls of every word are
accepted one by one when they come in time. Main statement: `lifecycle_language`.
-/
namespace VoterSession.Sequential

/-- The methods that a session accepted and the tags it had then, the latest first. -/
def accepted (id : SessionId) (trace : List Visited) : List (Method × AuthTag) :=
  trace.filterMap fun entry => (entry.success? id).map fun success =>
    (success.step.method, success.step.auth)

def verdict (window : ServiceWindow) (before : List Visit) (visit : Visit) :
    Except VerifyError AcceptedTransition :=
  (answer window visit.serviceNow ((run window before).now + visit.gap) visit.call
    (run window before).store).1

/-- Visits that take a session through a word. The last call of the session that was accepted, if there is
one, was so many milliseconds ago. Every call of the word goes to the service that answers it before the
lifetime of the stage before has passed; between them come calls of other sessions, and refused ones. -/
inductive Performs (window : ServiceWindow) (ttls : StageTtls) (id : SessionId) (tag : AuthTag) :
    List Visit → Option Method → Nat → List Method → List Visit → Prop
  | done {before : List Visit} {last : Option Method} {elapsed : Nat} :
      Performs window ttls id tag before last elapsed [] []
  | step {before visits : List Visit} {last : Option Method} {elapsed : Nat} {word : List Method}
      (visit : Visit) (own : visit.call.session = id)
      (opened : window.contains visit.serviceNow = true) (valid : visit.call.header.validate = .ok ())
      (serving : visit.call.kind = .serving tag visit.call.method)
      (connected : tag = .idCard → visit.call.method = .voterChoices → visit.call.transport = .tls)
      (timely : ∀ prior ∈ last, elapsed + visit.gap < (ttls.ttl prior.stage).millis)
      (rest : Performs window ttls id tag (before ++ [visit]) (some visit.call.method) 0 word visits) :
      Performs window ttls id tag before last elapsed (visit.call.method :: word) (visit :: visits)
  | aside {before visits : List Visit} {last : Option Method} {elapsed : Nat} {word : List Method}
      (visit : Visit)
      (refused : visit.call.session = id → ∃ failure, verdict window before visit = .error failure)
      (rest : Performs window ttls id tag (before ++ [visit]) last (elapsed + visit.gap) word visits) :
      Performs window ttls id tag before last elapsed word (visit :: visits)

def Placed (ttls : StageTtls) (completion : VoteCompletion) (id : SessionId) (tag : AuthTag)
    (state : State) : Option Method → Nat → Prop
  | none, _ => state.store.seen state.now (Sessions.key id) = none
  | some prior, elapsed => (prior = .vote → completion = .handoff) →
      elapsed < (ttls.ttl prior.stage).millis → ∃ lease deadline,
        state.store.seen state.now (Sessions.key id) =
          some ⟨RecordText.encode (some prior) tag, lease, (ttls.ttl prior.stage).millis, deadline⟩ ∧
        state.now + (ttls.ttl prior.stage).millis = deadline + elapsed

structure Remaining (completion : VoteCompletion) (tag : AuthTag) (last : Option Method)
    (word : List Method) : Prop where
  start : last = none → ∀ method ∈ word.head?, tag.course.head? = some method
  steps : (last.toList ++ word).IsChain tag.Follows
  unchecked : completion = .delete → .verify ∉ word

variable {window : ServiceWindow} {ttls : StageTtls} {completion : VoteCompletion} {id : SessionId}
  {tag : AuthTag} {state : State} {visit : Visit}

theorem Remaining.rest {last : Option Method} {method : Method} {word : List Method}
    (remaining : Remaining completion tag last (method :: word)) :
    Remaining completion tag (some method) word where
  start := nofun
  steps := remaining.steps.suffix (List.suffix_append _ _)
  unchecked removing member := remaining.unchecked removing (List.mem_cons_of_mem _ member)

theorem Remaining.follows {prior method : Method} {word : List Method}
    (remaining : Remaining completion tag (some prior) (method :: word)) : tag.Follows prior method :=
  (List.isChain_cons_cons.1 remaining.steps).1

theorem Remaining.handed {prior method : Method} {word : List Method}
    (remaining : Remaining completion tag (some prior) (method :: word)) (voted : prior = .vote) :
    completion = .handoff := by
  subst voted
  have checks := AuthTag.follows_vote remaining.follows
  cases hcompletion : completion with
  | handoff => rfl
  | delete =>
    have unchecked := remaining.unchecked hcompletion
    rw [checks] at unchecked
    exact absurd List.mem_cons_self unchecked

theorem Remaining.opens {word : List Method}
    (remaining : Remaining completion tag none (visit.call.method :: word))
    (resolved : tag.isResolved = true) (serving : visit.call.kind = .serving tag visit.call.method)
    (connected : tag = .idCard → visit.call.method = .voterChoices → visit.call.transport = .tls) :
    visit.call.kind.Opens visit.call.method visit.call.transport tag := by
  have head := remaining.start rfl visit.call.method rfl
  apply AuthTag.opens_of_head resolved head serving
  rintro rfl
  have choices : Method.voterChoices = visit.call.method := Option.some.inj head
  exact connected rfl choices.symm

theorem Placed.unmoved {last : Option Method} {elapsed : Nat} {after : State}
    (placed : Placed ttls completion id tag state last elapsed) (sound : state.store.Sound) {gap : Nat}
    (time : after.now = state.now + gap)
    (seen : after.store.seen after.now (Sessions.key id) = state.store.seen after.now (Sessions.key id)) :
    Placed ttls completion id tag after last (elapsed + gap) := by
  have later := sound.seen_later (Nat.le_add_right state.now gap) (Sessions.key id)
  rw [← time] at later
  cases last with
  | none =>
    have absent : state.store.seen state.now (Sessions.key id) = none := placed
    rw [absent] at later
    exact seen.trans later
  | some prior =>
    intro handed timely
    obtain ⟨lease, deadline, shown, span⟩ := placed handed (by omega)
    have alive : after.now < deadline := by omega
    refine ⟨lease, deadline, ?_, by omega⟩
    rw [seen, later, shown, Option.filter_some, if_pos (by simpa using alive)]

theorem Placed.landed {plan : Plan} {after : LeaseStore} (shared : visit.call.verifier.ttls = ttls)
    (agreed : visit.call.completion = completion)
    (shape : (∃ asked, plan = visit.call.updating tag asked) ∨
      visit.call.method = .vote ∧ visit.call.completion = .delete)
    (effect : Effect (state.now + visit.gap) visit.call plan state.store after) :
    Placed ttls completion visit.call.session tag (state.answered visit (.ok plan.accepted) after)
      (some visit.call.method) 0 := by
  intro handed _
  obtain ⟨asked, rfl⟩ | ⟨voted, removing⟩ := shape
  · obtain ⟨lease, own⟩ := Advanced.own effect
    rw [Call.lifetime, shared] at own
    exact ⟨lease, _, own, rfl⟩
  · rw [← agreed, removing] at handed
    cases handed voted

theorem Placed.step {last : Option Method} {elapsed : Nat} {word : List Method}
    (placed : Placed ttls completion visit.call.session tag state last elapsed)
    (tidy : Tidy ttls state.now state.store) (shared : visit.call.verifier.ttls = ttls)
    (agreed : visit.call.completion = completion) (opened : window.contains visit.serviceNow = true)
    (valid : visit.call.header.validate = .ok ()) (resolved : tag.isResolved = true)
    (serving : visit.call.kind = .serving tag visit.call.method)
    (connected : tag = .idCard → visit.call.method = .voterChoices → visit.call.transport = .tls)
    (timely : ∀ prior ∈ last, elapsed + visit.gap < (ttls.ttl prior.stage).millis)
    (remaining : Remaining completion tag last (visit.call.method :: word)) :
    ∃ (step : AcceptedTransition) (after : LeaseStore),
      answer window visit.serviceNow (state.now + visit.gap) visit.call state.store = (.ok step, after) ∧
      (step.method = visit.call.method ∧ step.auth = tag) ∧
      Placed ttls completion visit.call.session tag (state.answered visit (.ok step) after)
        (some visit.call.method) 0 := by
  have later := tidy.later (Nat.le_add_right state.now visit.gap)
  have waited : Placed ttls completion visit.call.session tag
      { state with now := state.now + visit.gap } last (elapsed + visit.gap) :=
    placed.unmoved tidy.sound rfl rfl
  cases last with
  | none =>
    have opens := remaining.opens resolved serving connected
    have decided := Call.judge_opens valid serving resolved opens
    obtain ⟨after, answered, effect⟩ := answer_accepted later shared (.absent waited) opened decided
    exact ⟨_, after, answered, ⟨rfl, rfl⟩, .landed shared agreed (.inl ⟨_, rfl⟩) effect⟩
  | some prior =>
    obtain ⟨lease, deadline, shown, _⟩ := waited remaining.handed (timely prior rfl)
    have numbered : 1 ≤ lease.number := (tidy.sound.seen_numbered shown).1
    have counted : 0 ≤ lease.number := by omega
    obtain ⟨plan, decided⟩ := Call.judge_follows valid serving resolved counted remaining.follows
    obtain ⟨after, answered, effect⟩ :=
      answer_accepted later shared (.present shown rfl) opened decided
    obtain ⟨_, _, shape⟩ := Call.judge_record decided
    refine ⟨plan.accepted, after, answered, ?_⟩
    obtain ⟨asked, _, _, _, rfl⟩ | ⟨voted, removing, rfl⟩ := shape
    · exact ⟨⟨rfl, rfl⟩, .landed shared agreed (.inl ⟨_, rfl⟩) effect⟩
    · exact ⟨⟨rfl, rfl⟩, .landed shared agreed (.inr ⟨voted, removing⟩) effect⟩

theorem visit_aside (tidy : Tidy ttls state.now state.store) (shared : visit.call.verifier.ttls = ttls)
    (refused : visit.call.session = id → ∃ failure, (answer window visit.serviceNow
      (state.now + visit.gap) visit.call state.store).1 = .error failure) :
    (state.visit window visit).store.seen (state.now + visit.gap) (Sessions.key id) =
        state.store.seen (state.now + visit.gap) (Sessions.key id) ∧
      accepted id (state.visit window visit).trace = accepted id state.trace := by
  by_cases own : visit.call.session = id
  · obtain ⟨failure, hrefused⟩ := refused own
    obtain ⟨_, after, answered, unmoved⟩ | ⟨_, plan, after, _, _, answered, _⟩ :=
      answer_cases window visit.serviceNow (tidy.later (Nat.le_add_right _ visit.gap)) shared
    · rw [State.visit_eq answered]
      refine ⟨unmoved.seen _, ?_⟩
      rw [accepted, State.answered, List.filterMap_cons_none]
      · rfl
      · rw [Visited.success?, if_pos own]
        rfl
    · rw [answered] at hrefused
      cases hrefused
  · refine ⟨visit_others tidy shared fun h => own (Sessions.key_injective h).symm, ?_⟩
    apply List.filterMap_cons_none
    rw [success_of_other]
    · rfl
    · exact own

theorem accepted_success {step : AcceptedTransition} (after : LeaseStore) :
    accepted visit.call.session (state.answered visit (.ok step) after).trace =
      (step.method, step.auth) :: accepted visit.call.session state.trace := by
  apply List.filterMap_cons_some
  rw [Visited.success?, if_pos rfl]
  rfl

theorem Performs.accepted {before visits : List Visit} {last : Option Method} {elapsed : Nat}
    {word : List Method} (performs : Performs window ttls id tag before last elapsed word visits)
    (uniform : Uniform ttls completion (before ++ visits)) (resolved : tag.isResolved = true)
    (remaining : Remaining completion tag last word)
    (placed : Placed ttls completion id tag (run window before) last elapsed) :
    accepted id (run window (before ++ visits)).trace =
      (word.map fun method => (method, tag)).reverse ++ accepted id (run window before).trace := by
  induction performs with
  | done => simp
  | @step before visits last elapsed word visit own opened valid serving connected timely rest ih =>
    subst own
    obtain ⟨shared, agreed⟩ := uniform.next
    obtain ⟨step, after, answered, ⟨method, auth⟩, there⟩ := placed.step (uniform.tidy window) shared
      agreed opened valid resolved serving connected timely remaining
    have next : run window (before ++ [visit]) = (run window before).answered visit (.ok step) after := by
      rw [run_concat, State.visit_eq answered]
    have onward : before ++ visit :: visits = before ++ [visit] ++ visits := by simp
    rw [onward] at uniform ⊢
    rw [ih uniform remaining.rest (by rw [next]; exact there), next, accepted_success, method, auth]
    simp
  | @aside before visits last elapsed word visit refused rest ih =>
    obtain ⟨shared, _⟩ := uniform.next
    have tidy := uniform.tidy window
    obtain ⟨seen, same⟩ := visit_aside tidy shared refused
    have onward : before ++ visit :: visits = before ++ [visit] ++ visits := by simp
    rw [onward] at uniform ⊢
    have time : (run window (before ++ [visit])).now = (run window before).now + visit.gap := by
      rw [run_concat]
      rfl
    rw [← run_concat, ← time] at seen
    rw [← run_concat] at same
    rw [ih uniform remaining (placed.unmoved tidy.sound time seen), same]

theorem vote_removes {step : AcceptedTransition} {after : LeaseStore}
    (tidy : Tidy ttls state.now state.store) (shared : visit.call.verifier.ttls = ttls)
    (removing : visit.call.completion = .delete) (voted : step.method = .vote)
    (answered : answer window visit.serviceNow (state.now + visit.gap) visit.call state.store =
      (.ok step, after)) : after.seen (state.now + visit.gap) visit.call.key = none := by
  obtain ⟨_, _, refused, _⟩ | ⟨record, plan, _, reads, decided, accepts, effect⟩ :=
    answer_cases window visit.serviceNow (tidy.later (Nat.le_add_right _ visit.gap)) shared
  · cases answered.symm.trans refused
  · cases answered.symm.trans accepts
    cases reads with
    | absent shown =>
      obtain ⟨_, tag, _, opens, _, rfl⟩ := Call.judge_empty decided
      have vote : visit.call.method = .vote := voted
      rw [vote] at opens
      exact opens.elim
    | present shown written =>
      obtain ⟨_, _, ⟨asked, _, _, handed, rfl⟩ | ⟨_, _, rfl⟩⟩ := Call.judge_record decided
      · have handed := handed voted
        rw [removing] at handed
        cases handed
      · exact (LeaseStore.Removed.seen effect visit.call.key).trans (if_pos rfl)

/-- For calls one after another in one deployment, the lifecycles of a session are the words: what it
accepted since it last had no record begins one, the calls of each are accepted in order on a session
without a record, and where the vote ends a session the record is gone right after it. -/
theorem lifecycle_language {window : ServiceWindow} {ttls : StageTtls} {completion : VoteCompletion}
    {visits : List Visit} (uniform : Uniform ttls completion visits) :
    (∀ id, ∃ tag, Lifecycle completion tag (life id (run window visits).trace)) ∧
    (∀ id tag before after word, visits = before ++ after → tag.isResolved = true →
      tag.Begun completion word →
      (run window before).store.seen (run window before).now (Sessions.key id) = none →
      Performs window ttls id tag before none 0 word after →
      accepted id (run window visits).trace =
        (word.map fun method => (method, tag)).reverse ++ accepted id (run window before).trace) ∧
    (completion = .delete → ∀ before visit after step, visits = before ++ visit :: after →
      verdict window before visit = .ok step → step.method = .vote →
      (run window (before ++ [visit])).store.seen (run window (before ++ [visit])).now visit.call.key =
        none) := by
  refine ⟨?_, ?_, ?_⟩
  · intro id
    obtain ⟨tag, lived, _⟩ := known_run uniform id
    exact ⟨tag, lived⟩
  · rintro id tag before after word rfl resolved begun absent performs
    have remaining : Remaining completion tag none word :=
      ⟨fun _ => begun.walk.start, begun.walk.steps, begun.unchecked⟩
    exact performs.accepted uniform resolved remaining absent
  · rintro removing before visit after step rfl answered voted
    obtain ⟨shared, agreed⟩ := uniform.next
    have whole : answer window visit.serviceNow ((run window before).now + visit.gap) visit.call
        (run window before).store = (.ok step, _) := Prod.ext answered rfl
    rw [run_concat, State.visit_eq whole]
    exact vote_removes (uniform.tidy window) shared (agreed.trans removing) voted whole

/-- The voter chooses with an identity card, asks for the choices again, which is refused, and votes. -/
def cardSession : List Visit :=
  [⟨0, 0, { Concurrent.choicesCall with transport := .tls }⟩, ⟨1000, 0, Concurrent.choicesCall⟩,
    ⟨60000, 0, Concurrent.voteCall⟩]

theorem card_session_takes_a_word : Uniform .standard .delete cardSession ∧
    (∃ tag, Lifecycle .delete tag (life Concurrent.voteCall.session (run .always cardSession).trace)) ∧
    accepted Concurrent.voteCall.session (run .always cardSession).trace =
      [(.vote, .idCard), (.voterChoices, .idCard)] ∧
    (run .always cardSession).store.seen (run .always cardSession).now Concurrent.voteCall.key = none := by
  have uniform : Uniform .standard .delete cardSession := by
    intro visit member
    simp only [cardSession, List.mem_cons, List.not_mem_nil, or_false] at member
    obtain rfl | rfl | rfl := member <;> exact ⟨rfl, rfl⟩
  have begun : AuthTag.idCard.Begun .delete [.voterChoices, .vote] := by
    apply AuthTag.Walk.begun ⟨_, _⟩ (by simp)
    · rintro _ ⟨⟩
      rfl
    · simp only [List.isChain_cons_cons, List.isChain_singleton, and_true]
      decide
  have performs : Performs .always .standard Concurrent.voteCall.session .idCard [] none 0
      [.voterChoices, .vote] cardSession := by
    refine .step ⟨0, 0, { Concurrent.choicesCall with transport := .tls }⟩ rfl rfl rfl rfl (fun _ _ => rfl)
      (by simp) (.aside _ ?_ (.step ⟨60000, 0, Concurrent.voteCall⟩ rfl rfl rfl rfl (fun _ => nofun) ?_ .done))
    · intro _
      exact ⟨.rejected (.invalidCallerOrAuth .voterChoices (some .voterChoices) .idCard), by decide +kernel⟩
    · rintro _ ⟨⟩
      decide
  obtain ⟨lives, complete, removed⟩ := @lifecycle_language .always _ _ _ uniform
  refine ⟨uniform, lives _, ?_, ?_⟩
  · exact complete _ .idCard [] cardSession _ rfl rfl begun (LeaseStore.seen_empty 0 _) performs
  · have voted : verdict .always (cardSession.take 2) ⟨60000, 0, Concurrent.voteCall⟩ =
        .ok ⟨.vote, .idCard, ⟨1⟩, .deleted, 0x53530002⟩ := by decide +kernel
    exact removed rfl (cardSession.take 2) _ [] _ rfl voted rfl

end VoterSession.Sequential
